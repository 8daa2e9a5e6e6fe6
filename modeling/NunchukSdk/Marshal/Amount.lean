import NunchukSdk.Jni.Env

/-!
# Amounts

Kotlin's `Amount` holds the value and a text that `Utils::ValueFromAmount` renders. The text is
set last, inside the `try`: when the rendering throws, the value is kept and the text stays at
its default.
-/

namespace NunchukSdk

open Foundation NativeM

/-- `nunchuk::AssetId`. -/
abbrev AssetId := List UInt8

/-- Kotlin `Amount`. -/
structure JAmount where
  value : Int := 0
  formattedValue : String := "0.00"
  deriving DecidableEq, Repr

/-- `Utils::ValueFromAmount`. -/
abbrev ValueFromAmount := Int → Except CppException String

/-- `Deserializer::convert2JAmount`. -/
def convert2JAmount (valueFromAmount : ValueFromAmount) (amount : Int) : JAmount :=
  fillLogged {} do
    update fun a => { a with value := amount }
    let text ← call (valueFromAmount amount)
    update fun a => { a with formattedValue := text }

/-- `Serializer::convert2CAmount`. -/
def convert2CAmount (amount : JAmount) : Int := amount.value

/-- The amount that a rendering outcome leaves. -/
theorem convert2JAmount_eq (valueFromAmount : ValueFromAmount) (amount : Int) :
    convert2JAmount valueFromAmount amount =
      match valueFromAmount amount with
      | .ok text => ⟨amount, text⟩
      | .error _ => { value := amount } := by
  unfold convert2JAmount fillLogged
  rw [run_update_bind]
  cases valueFromAmount amount with
  | ok text => rfl
  | error e => rfl

/-- The value arrives whatever the rendering does. -/
@[simp] theorem convert2JAmount_value (valueFromAmount : ValueFromAmount) (amount : Int) :
    (convert2JAmount valueFromAmount amount).value = amount := by
  rw [convert2JAmount_eq]
  cases valueFromAmount amount <;> rfl

end NunchukSdk
