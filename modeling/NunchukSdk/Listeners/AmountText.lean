import NunchukSdk.Foundation.EventRun
import NunchukSdk.Listeners.Updates

/-!
# The Text of an Amount

An `Amount` carries its value and a text for the screen. `convert2JAmount` fills both; the balances
listener and the operators of the class give the value alone, so that the text is the default, and
`plusAssign` changes the value and leaves the text.

## Model

- An app holds amounts in a list. An event makes one, from a native amount, from a balance or from
  two others, or assigns to one; amounts are objects, so that an assignment is seen by all that
  hold the same one.
- Kotlin's `Long` wraps around (`toLong`).

## Results

- `textsShown_amountStep_iff`: when one event leaves every text right
- `amountTexts_shown_iff`: when all texts are right in every state of a run, so that amounts of
  equal value are equal
-/

namespace NunchukSdk

open Foundation

/-! ## Amounts in Kotlin -/

/-- The value of a `Long` computation. -/
def toLong (n : Int) : Int := n.bmod (2 ^ 64)

namespace JAmount

/-- Kotlin `Amount.plus`. -/
def plus (a amount : JAmount) : JAmount := { value := toLong (a.value + amount.value) }

/-- Kotlin `Amount.minus`. -/
def minus (a amount : JAmount) : JAmount := { value := toLong (a.value - amount.value) }

/-- Kotlin `Amount.plusAssign`. -/
def plusAssign (a amount : JAmount) : JAmount :=
  { a with value := toLong (a.value + amount.value) }

end JAmount

/-- The amount that the balances listener makes of a balance. -/
def listenerAmount (balance : Int) : JAmount := { value := balance }

/-- All amounts of an update are made this way. -/
theorem onBalancesUpdate_eq (walletId : String) (balance unconfirmedBalance : Int)
    (assetBalances : Finmap fun _ : JString => Int) :
    onBalancesUpdate walletId balance unconfirmedBalance assetBalances =
      .balances ⟨walletId, listenerAmount balance, listenerAmount unconfirmedBalance,
        mapValues listenerAmount assetBalances⟩ := rfl

/-- The text of an amount is what the library renders for its value. -/
def TextShown (valueFromAmount : ValueFromAmount) (a : JAmount) : Prop :=
  valueFromAmount a.value = .ok a.formattedValue

/-! ## Runs -/

/-- What happens to the amounts of an app; amounts are named by their place. -/
inductive AmountEvent where
  /-- `convert2JAmount`. -/
  | convert (amount : Int64)
  /-- An amount of an update of the balances listener. -/
  | balance (balance : Int64)
  | plus (i j : Nat)
  | minus (i j : Nat)
  | plusAssign (i j : Nat)
  deriving DecidableEq, Repr

variable (valueFromAmount : ValueFromAmount)

/-- An operator on the amounts at two places; without both of them nothing happens. -/
def operate (amounts : List JAmount) (i j : Nat) (f : JAmount → JAmount → List JAmount) :
    List JAmount :=
  match amounts[i]?, amounts[j]? with
  | some a, some b => f a b
  | _, _ => amounts

/-- One event. -/
def amountStep (amounts : List JAmount) : AmountEvent → List JAmount
  | .convert amount => amounts ++ [convert2JAmount valueFromAmount amount.toInt]
  | .balance balance => amounts ++ [listenerAmount balance.toInt]
  | .plus i j => operate amounts i j fun a b => amounts ++ [a.plus b]
  | .minus i j => operate amounts i j fun a b => amounts ++ [a.minus b]
  | .plusAssign i j => operate amounts i j fun a b => amounts.set i (a.plusAssign b)

/-- Every text is right. -/
def TextsShown (amounts : List JAmount) : Prop := ∀ a ∈ amounts, TextShown valueFromAmount a

/-- Amounts of equal value are equal. -/
def EqualByValue (amounts : List JAmount) : Prop :=
  ∀ a ∈ amounts, ∀ b ∈ amounts, a.value = b.value → a = b

/-- The event makes amounts that the library renders as the default text, and changes no value to
    one that it renders differently. -/
def KeepsTexts (amounts : List JAmount) : AmountEvent → Prop
  | .convert amount => ∃ text, valueFromAmount amount.toInt = .ok text
  | .balance balance => valueFromAmount balance.toInt = .ok "0.00"
  | .plus i j => ∀ a b, amounts[i]? = some a → amounts[j]? = some b →
    valueFromAmount (toLong (a.value + b.value)) = .ok "0.00"
  | .minus i j => ∀ a b, amounts[i]? = some a → amounts[j]? = some b →
    valueFromAmount (toLong (a.value - b.value)) = .ok "0.00"
  | .plusAssign i j => ∀ a b, amounts[i]? = some a → amounts[j]? = some b →
    valueFromAmount (toLong (a.value + b.value)) = valueFromAmount a.value

variable {valueFromAmount}

/-- Right texts make amounts of equal value equal. -/
theorem TextsShown.equalByValue {amounts : List JAmount} (h : TextsShown valueFromAmount amounts) :
    EqualByValue amounts := by
  rintro ⟨value, text⟩ ha ⟨value', text'⟩ hb hvalue
  have htext : valueFromAmount value = .ok text := h _ ha
  have htext' : valueFromAmount value' = .ok text' := h _ hb
  have hvalue : value = value' := hvalue
  rw [hvalue, htext'] at htext
  rw [hvalue, Except.ok.inj htext]

/-- A new amount beside ones with right texts. -/
theorem textsShown_concat_iff {amounts : List JAmount} (h : TextsShown valueFromAmount amounts)
    (a : JAmount) :
    TextsShown valueFromAmount (amounts ++ [a]) ↔ TextShown valueFromAmount a := by
  constructor
  · intro hall
    exact hall a (List.mem_append_right _ (List.mem_singleton_self a))
  · intro ha b hb
    rcases List.mem_append.mp hb with hold | hnew
    · exact h b hold
    · rw [List.mem_singleton.mp hnew]
      exact ha

/-- An amount in the place of another one. -/
theorem textsShown_set_iff {amounts : List JAmount} (h : TextsShown valueFromAmount amounts)
    {i : Nat} (hi : i < amounts.length) (a : JAmount) :
    TextsShown valueFromAmount (amounts.set i a) ↔ TextShown valueFromAmount a := by
  constructor
  · intro hall
    exact hall a (List.mem_set hi a)
  · intro ha b hb
    rcases List.mem_or_eq_of_mem_set hb with hold | rfl
    · exact h b hold
    · exact ha

theorem textShown_convert_iff (amount : Int) :
    TextShown valueFromAmount (convert2JAmount valueFromAmount amount) ↔
      ∃ text, valueFromAmount amount = .ok text := by
  unfold TextShown
  rw [convert2JAmount_value, convert2JAmount_eq]
  cases valueFromAmount amount with
  | ok text => simp
  | error e => simp

/-- What an operator leaves, where its operands are there. -/
theorem textsShown_operate_iff {amounts : List JAmount} (h : TextsShown valueFromAmount amounts)
    {i j : Nat} {f : JAmount → JAmount → List JAmount} {Q : JAmount → JAmount → Prop}
    (hf : ∀ a b, amounts[i]? = some a → amounts[j]? = some b →
      (TextsShown valueFromAmount (f a b) ↔ Q a b)) :
    TextsShown valueFromAmount (operate amounts i j f) ↔
      ∀ a b, amounts[i]? = some a → amounts[j]? = some b → Q a b := by
  unfold operate
  cases hi : amounts[i]? with
  | none => simp [h]
  | some a =>
    cases hj : amounts[j]? with
    | none => simp [h]
    | some b => simp [hf a b hi hj]

/-- An assigned value keeps its text. -/
theorem textShown_plusAssign_iff {a : JAmount} (ha : TextShown valueFromAmount a) (b : JAmount) :
    TextShown valueFromAmount (a.plusAssign b) ↔
      valueFromAmount (toLong (a.value + b.value)) = valueFromAmount a.value := by
  unfold TextShown JAmount.plusAssign
  rw [ha]

/-- **Step lemma.** Where all texts are right, an event leaves them right exactly when it keeps
    them. -/
theorem textsShown_amountStep_iff (amounts : List JAmount) (e : AmountEvent)
    (h : TextsShown valueFromAmount amounts) :
    TextsShown valueFromAmount (amountStep valueFromAmount amounts e) ↔
      KeepsTexts valueFromAmount amounts e := by
  cases e with
  | convert amount =>
    rw [amountStep, textsShown_concat_iff h, textShown_convert_iff]
    rfl
  | balance balance =>
    rw [amountStep, textsShown_concat_iff h]
    rfl
  | plus i j => exact textsShown_operate_iff h fun a b _ _ => textsShown_concat_iff h (a.plus b)
  | minus i j => exact textsShown_operate_iff h fun a b _ _ => textsShown_concat_iff h (a.minus b)
  | plusAssign i j =>
    refine textsShown_operate_iff h fun a b hi _ => ?_
    -- the assignment replaces an amount whose text was right
    have hlt : i < amounts.length := (List.getElem?_eq_some_iff.mp hi).1
    rw [textsShown_set_iff h hlt, textShown_plusAssign_iff (h a (List.mem_of_getElem? hi))]

/-! ## Every state of a run -/

/-- **The texts are right in every state of a run, and amounts of equal value equal, exactly when
    every event keeps the texts.** -/
theorem amountTexts_shown_iff (valueFromAmount : ValueFromAmount) (es : List AmountEvent) :
    (∀ amounts ∈ states (amountStep valueFromAmount) [] es,
        TextsShown valueFromAmount amounts ∧ EqualByValue amounts) ↔
      Along (amountStep valueFromAmount) (KeepsTexts valueFromAmount) [] es := by
  have hnone : TextsShown valueFromAmount [] := fun a ha => absurd ha List.not_mem_nil
  have hboth : ∀ amounts, TextsShown valueFromAmount amounts ∧ EqualByValue amounts ↔
      TextsShown valueFromAmount amounts := fun _ => and_iff_left_of_imp TextsShown.equalByValue
  simp only [hboth, forall_states_iff, hnone, true_and]
  -- right texts are the invariant of the run
  exact along_iff_of_inv (V := fun _ _ => True) (I := TextsShown valueFromAmount)
    (fun s e h _ => textsShown_amountStep_iff s e h)
    (fun s e h _ he => (textsShown_amountStep_iff s e h).mpr he) hnone (along_true _ _ es)

/-- The sum of two amounts that the library renders is shown as nothing. -/
theorem sum_shown_as_default :
    ¬ ∀ amounts ∈ states (amountStep fun n => .ok ("0.0000000" ++ toString n)) []
      [.convert 1, .convert 2, .plus 0 1],
        TextsShown (fun n => .ok ("0.0000000" ++ toString n)) amounts ∧ EqualByValue amounts := by
  intro h
  have hsum := (h _ (runFrom_mem_states _ _ _)).1 { value := 3 } (by decide)
  exact absurd (Except.ok.inj hsum) (by decide)

end NunchukSdk
