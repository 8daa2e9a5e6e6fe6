import NunchukSdk.Foundation.Copies
import NunchukSdk.Nfc.Mk4

/-!
# Signing with Several Cards

A transaction that needs several signatures goes to several ColdCards. The app hands its PSBT to a
card and collects what the card has made, in any order: a second card may be handed the PSBT before
the first one's answer is collected, an answer may be collected twice, and each call may fail.

## Model

- `ColdCard`: what a card leaves on its tag, with the proof that this is its answer to the PSBT
- `TagWorld`, `tagStep`: the app, the library and the tags. The native methods run on the records.
- `PsbtWorld`, `psbtStep`: what all this is for. Cards are handed texts, and answer them.

## Results

- `airGap_refines`: the tags carry what the texts say. Whatever happens, the library and the app
  are where they would be without records, arrays and exceptions in between.
- `relayPsbt_eq`: a PSBT that no wallet has goes from card to card
- `airGap_signatures`: no signature is lost and none comes from nowhere. At any time, the
  transaction is signed by those who had signed it at first and by the cards that were collected.
-/

namespace NunchukSdk

open Foundation NativeM

/-! ## Cards and tags -/

variable {S ι L : Type} {accepts : NdefRecordParts → Bool}

/-- A card, by its tag. -/
structure ColdCard (mk4 : LibMk4 S) (accepts : NdefRecordParts → Bool) where
  sign : String → CardAnswer
  /-- What it leaves on the tag when it finds these records there. -/
  writes : List (NdefRecord accepts) → List (NdefRecord accepts)
  answers : ∀ {records psbt},
    mk4.readAnswer (convert2CRecords records) = .ok (some (.psbt psbt)) →
    mk4.readAnswer (convert2CRecords (writes records)) = .ok (some (sign psbt))

/-- What the app does: it writes the PSBT to the tag of a card, or reads the tag of a card that has
    been written to. -/
inductive TagEvent (ι : Type) where
  | hand (card : ι)
  | collect (card : ι)

/-- The library, the tags, and what the app was shown. -/
structure TagWorld (S ι : Type) (accepts : NdefRecordParts → Bool) where
  store : S
  tags : ι → Option (List (NdefRecord accepts))
  shown : List (JResult JTransaction)

/-- The library, the answers of the cards, and what the app was shown. -/
structure PsbtWorld (S ι : Type) where
  store : S
  answers : ι → Option CardAnswer
  shown : List (JResult JTransaction)

section Steps

variable [DecidableEq ι] (lib : LibNunchuk) {mk4 : LibMk4 S}
  (cards : ι → ColdCard mk4 accepts) (walletId txId : String)

/-- One step with the tags. Each native method is entered without a pending exception. -/
def tagStep (world : TagWorld S ι accepts) : TagEvent ι → TagWorld S ι accepts
  | .hand card =>
    match (exportPsbtToMk4 mk4 accepts walletId txId).run (world.store, {}) with
    | (.ok (.object records), (store, _)) =>
      { world with
        store := store
        tags := Function.update world.tags card (some ((cards card).writes records)) }
    | (outcome, (store, env)) =>
      { world with
        store := store
        shown := world.shown ++ [(outcome.map fun _ => .null, env)] }
  | .collect card =>
    match world.tags card with
    | none => world
    | some records =>
      match (importTransactionFromMk4 lib mk4 walletId records).run (world.store, {}) with
      | (outcome, (store, env)) =>
        { world with
          store := store
          shown := world.shown ++ [(outcome, env)] }

/-- The same step on the texts. -/
def psbtStep (world : PsbtWorld S ι) : TagEvent ι → PsbtWorld S ι
  | .hand card =>
    match mk4.exported walletId txId world.store with
    | .ok (psbt, _) =>
      { world with
        store := (mk4.getTransaction walletId txId world.store).2
        answers := Function.update world.answers card (some ((cards card).sign psbt)) }
    | .error e =>
      { world with
        store := (mk4.getTransaction walletId txId world.store).2
        shown := world.shown ++ [shownOutcome lib (.error e)] }
  | .collect card =>
    match world.answers card with
    | none => world
    | some answer =>
      { world with
        store := (mk4.importAnswer walletId answer world.store).2
        shown := world.shown ++
          [shownOutcome lib (mk4.importAnswer walletId answer world.store).1] }

end Steps

/-! ## The tags carry the texts -/

/-- The tags hold the answers of the cards. -/
structure Carries (mk4 : LibMk4 S) (world : TagWorld S ι accepts) (texts : PsbtWorld S ι) :
    Prop where
  store : world.store = texts.store
  shown : world.shown = texts.shown
  tags : ∀ card, Option.Rel
    (fun records answer => mk4.readAnswer (convert2CRecords records) = .ok (some answer))
    (world.tags card) (texts.answers card)

/-- A tag and the answer on it. -/
theorem Carries.tag_cases {mk4 : LibMk4 S} {world : TagWorld S ι accepts} {texts : PsbtWorld S ι}
    (h : Carries mk4 world texts) (card : ι) :
    (world.tags card = none ∧ texts.answers card = none) ∨
      ∃ records answer, world.tags card = some records ∧ texts.answers card = some answer ∧
        mk4.readAnswer (convert2CRecords records) = .ok (some answer) := by
  have htag := h.tags card
  cases hrecords : world.tags card with
  | none =>
    rw [hrecords] at htag
    cases hanswer : texts.answers card with
    | none => exact Or.inl ⟨rfl, rfl⟩
    | some answer =>
      rw [hanswer] at htag
      cases htag
  | some records =>
    rw [hrecords] at htag
    cases hanswer : texts.answers card with
    | none =>
      rw [hanswer] at htag
      cases htag
    | some answer =>
      rw [hanswer] at htag
      cases htag with
      | some hread => exact Or.inr ⟨records, answer, rfl, rfl, hread⟩

section Refinement

variable [DecidableEq ι] {lib : LibNunchuk} {mk4 : LibMk4 S}
  {cards : ι → ColdCard mk4 accepts} {walletId txId : String}

theorem carries_hand (hcodec : mk4.CarriesPsbts accepts) {world : TagWorld S ι accepts}
    {texts : PsbtWorld S ι} (h : Carries mk4 world texts) (card : ι) :
    Carries mk4 (tagStep lib cards walletId txId world (.hand card))
      (psbtStep lib cards walletId txId texts (.hand card)) := by
  unfold tagStep psbtStep
  rw [h.store]
  rcases hexported : mk4.exported walletId txId texts.store with e | ⟨psbt, cRecords⟩
  · rw [exportPsbtToMk4_run_error hexported]
    exact ⟨rfl, by rw [h.shown]; rfl, h.tags⟩
  · obtain ⟨records, hrun, hread⟩ := exportPsbtToMk4_run_ok hcodec hexported
    rw [hrun]
    refine ⟨rfl, h.shown, ?_⟩
    intro other
    by_cases hother : other = card
    · subst hother
      dsimp only
      rw [Function.update_self, Function.update_self]
      exact .some ((cards other).answers hread)
    · dsimp only
      rw [Function.update_of_ne hother, Function.update_of_ne hother]
      exact h.tags other

theorem carries_collect {world : TagWorld S ι accepts} {texts : PsbtWorld S ι}
    (h : Carries mk4 world texts) (card : ι) :
    Carries mk4 (tagStep lib cards walletId txId world (.collect card))
      (psbtStep lib cards walletId txId texts (.collect card)) := by
  unfold tagStep psbtStep
  dsimp only
  rcases h.tag_cases card with ⟨hrecords, hanswer⟩ | ⟨records, answer, hrecords, hanswer, hread⟩
  · rw [hrecords, hanswer]
    exact h
  · rw [hrecords, hanswer]
    dsimp only
    rw [importTransactionFromMk4_run hread, h.store]
    exact ⟨rfl, by rw [h.shown], h.tags⟩

theorem carries_step (hcodec : mk4.CarriesPsbts accepts) {world : TagWorld S ι accepts}
    {texts : PsbtWorld S ι} (h : Carries mk4 world texts) (event : TagEvent ι) :
    Carries mk4 (tagStep lib cards walletId txId world event)
      (psbtStep lib cards walletId txId texts event) := by
  cases event with
  | hand card => exact carries_hand hcodec h card
  | collect card => exact carries_collect h card

/-- **The tags carry what the texts say.** In every run, from worlds that agree, the library, the
    answers and everything that the app is shown stay the same. -/
theorem airGap_refines (hcodec : mk4.CarriesPsbts accepts) {world : TagWorld S ι accepts}
    {texts : PsbtWorld S ι} (h : Carries mk4 world texts) (events : List (TagEvent ι)) :
    Carries mk4 (runFrom (tagStep lib cards walletId txId) world events)
      (runFrom (psbtStep lib cards walletId txId) texts events) := by
  apply List.foldl_rel h
  exact fun event _ _ _ h => carries_step hcodec h event

end Refinement

/-! ## Whose signatures there are -/

section Kinds

variable (lib : LibNunchuk) (mk4 : LibMk4 S) (walletId txId : String)

/-- A card takes the PSBT when the export returns records. Its answer is merged unless the import
    raises an exception. -/
def tagKind (world : TagWorld S ι accepts) : TagEvent ι → CopyStep ι
  | .hand card =>
    match (exportPsbtToMk4 mk4 accepts walletId txId).run (world.store, {}) with
    | (.ok (.object _), _) => .take card
    | _ => .idle
  | .collect card =>
    match world.tags card with
    | none => .idle
    | some records =>
      match (importTransactionFromMk4 lib mk4 walletId records).run (world.store, {}) with
      | (.ok .null, _) => .idle
      | _ => .merge card

/-- The same on the texts. -/
def psbtKind (world : PsbtWorld S ι) : TagEvent ι → CopyStep ι
  | .hand card =>
    match mk4.exported walletId txId world.store with
    | .ok _ => .take card
    | .error _ => .idle
  | .collect card =>
    match world.answers card with
    | none => .idle
    | some answer =>
      match (mk4.importAnswer walletId answer world.store).1 with
      | .ok _ => .merge card
      | .error _ => .idle

/-- The cards whose answers were collected, in order. -/
def collected [DecidableEq ι] {mk4 : LibMk4 S} (cards : ι → ColdCard mk4 accepts)
    (walletId txId : String) : TagWorld S ι accepts → List (TagEvent ι) → List ι :=
  mergedBy (tagStep lib cards walletId txId) (tagKind lib mk4 walletId txId)

end Kinds

/-- What the library does with signatures. `stored` has those of the transaction in the wallet,
    `signed` those of this transaction that an answer brings. An import merges them. -/
structure LibMk4.MergesSignatures [SemilatticeSup L] (mk4 : LibMk4 S) (walletId txId : String)
    (stored : S → L) (signed : CardAnswer → L) : Prop where
  get : ∀ store, stored (mk4.getTransaction walletId txId store).2 = stored store
  psbt : ∀ {store tx}, (mk4.getTransaction walletId txId store).1 = .ok tx →
    signed (.psbt tx.psbt) = stored store
  imported : ∀ {answer store tx}, (mk4.importAnswer walletId answer store).1 = .ok tx →
    stored (mk4.importAnswer walletId answer store).2 = stored store ⊔ signed answer
  refused : ∀ {answer store e}, (mk4.importAnswer walletId answer store).1 = .error e →
    stored (mk4.importAnswer walletId answer store).2 = stored store

section Signatures

variable {lib : LibNunchuk} {mk4 : LibMk4 S} {cards : ι → ColdCard mk4 accepts}
  {walletId txId : String}

/-- The kind of a step is the same on the tags and on the texts. -/
theorem tagKind_eq (hcodec : mk4.CarriesPsbts accepts) {world : TagWorld S ι accepts}
    {texts : PsbtWorld S ι} (h : Carries mk4 world texts) (event : TagEvent ι) :
    tagKind lib mk4 walletId txId world event = psbtKind mk4 walletId txId texts event := by
  cases event with
  | hand card =>
    unfold tagKind psbtKind
    dsimp only
    rw [h.store]
    rcases hexported : mk4.exported walletId txId texts.store with e | ⟨psbt, cRecords⟩
    · rw [exportPsbtToMk4_run_error hexported]
    · obtain ⟨records, hrun, -⟩ := exportPsbtToMk4_run_ok hcodec hexported
      rw [hrun]
  | collect card =>
    unfold tagKind psbtKind
    dsimp only
    rcases h.tag_cases card with ⟨hrecords, hanswer⟩ | ⟨records, answer, hrecords, hanswer, hread⟩
    · rw [hrecords, hanswer]
    · rw [hrecords, hanswer]
      dsimp only
      rw [importTransactionFromMk4_run hread, h.store]
      cases (mk4.importAnswer walletId answer texts.store).1 with
      | error e => rfl
      | ok tx =>
        -- the answer is in the wallet, whether or not the transaction can be shown
        rw [shownOutcome]
        cases shownTransaction lib tx 0 with
        | none => rfl
        | some shown => rfl

variable [DecidableEq ι]

/-- The texts are a record with copies in flight. -/
theorem sharing_psbtStep [SemilatticeSup L] {stored : S → L} {signed : CardAnswer → L}
    (h : mk4.MergesSignatures walletId txId stored signed) {key : ι → L}
    (hcards : ∀ card psbt, signed ((cards card).sign psbt) = signed (.psbt psbt) ⊔ key card) :
    Sharing (psbtStep lib cards walletId txId) (fun texts => stored texts.store)
      (fun texts card => (texts.answers card).map signed) key (psbtKind mk4 walletId txId) := by
  intro texts event
  cases event with
  | hand card =>
    unfold psbtKind psbtStep
    dsimp only
    rcases hexported : mk4.exported walletId txId texts.store with e | ⟨psbt, cRecords⟩
    · exact ⟨h.get _, rfl⟩
    · refine ⟨h.get _, ?_⟩
      -- the card has signed the PSBT of the wallet
      obtain ⟨tx, htx, hexported⟩ := bind_eq_ok.mp hexported
      obtain ⟨cRecords', -, hexported⟩ := bind_eq_ok.mp hexported
      cases hexported
      dsimp only
      rw [← h.psbt htx, ← hcards]
      funext other
      by_cases hother : other = card
      · subst hother
        simp
      · simp [hother]
  | collect card =>
    unfold psbtKind psbtStep
    dsimp only
    cases hanswer : texts.answers card with
    | none => exact ⟨rfl, rfl⟩
    | some answer =>
      dsimp only
      cases himport : (mk4.importAnswer walletId answer texts.store).1 with
      | error e => exact ⟨h.refused himport, rfl⟩
      | ok tx =>
        refine ⟨signed answer, ?_, h.imported himport, rfl⟩
        dsimp only
        rw [hanswer, Option.map_some]

/-- **The signatures.** In every run, the transaction in the wallet is signed by those who had
    signed it at first, and by each card whose answer was collected. A card that was handed an old
    PSBT takes no signature back, and nobody else has signed. -/
theorem airGap_signatures [SemilatticeSup L] [OrderBot L] (hcodec : mk4.CarriesPsbts accepts)
    {stored : S → L} {signed : CardAnswer → L}
    (h : mk4.MergesSignatures walletId txId stored signed) {key : ι → L}
    (hcards : ∀ card psbt, signed ((cards card).sign psbt) = signed (.psbt psbt) ⊔ key card)
    (store : S) (events : List (TagEvent ι)) :
    stored (runFrom (tagStep lib cards walletId txId) ⟨store, fun _ => none, []⟩ events).store =
      stored store ⊔
        (collected lib cards walletId txId ⟨store, fun _ => none, []⟩ events).toFinset.sup key := by
  have hfresh : Carries mk4 (⟨store, fun _ => none, []⟩ : TagWorld S ι accepts)
      ⟨store, fun _ => none, []⟩ := ⟨rfl, rfl, fun _ => .none⟩
  have hcollected : collected lib cards walletId txId ⟨store, fun _ => none, []⟩ events =
      mergedBy (psbtStep lib cards walletId txId) (psbtKind mk4 walletId txId)
        ⟨store, fun _ => none, []⟩ events :=
    mergedBy_eq_of_rel (fun _ _ event h => tagKind_eq hcodec h event)
      (fun _ _ event h => carries_step hcodec h event) hfresh events
  rw [hcollected, (airGap_refines hcodec hfresh events).store]
  exact (sharing_psbtStep h hcards).value_runFrom (current_of_none fun _ => rfl) events

end Signatures

/-! ## A PSBT that no wallet has -/

section Relay

variable (mk4 : LibMk4 S) (store : S)

/-- The app has one card after the other sign a PSBT, and takes the text that it is returned to the
    next one. It stops where a method returns nothing. -/
def relayPsbt : String → List (ColdCard mk4 accepts) → JResult String
  | psbt, [] => (.ok (.object psbt), {})
  | psbt, card :: rest =>
    match (exportRawPsbtToMk4 mk4 accepts psbt).run (store, {}) with
    | (.ok (.object records), _) =>
      match (getPsbtFromMk4 mk4 (card.writes records)).run (store, {}) with
      | (.ok (.object signed), _) => relayPsbt signed rest
      | (outcome, (_, env)) => (outcome, env)
    | (outcome, (_, env)) => (outcome.map fun _ => .null, env)

/-- The signatures of the cards in turn. A finished transaction is not a PSBT, and the library may
    find no records for one. -/
def signInTurn : String → List (ColdCard mk4 accepts) → JResult String
  | psbt, [] => (.ok (.object psbt), {})
  | psbt, card :: rest =>
    match mk4.ndefRecordsFromPSBT psbt with
    | .error e => (.ok .null, ⟨[⟨e.message⟩]⟩)
    | .ok _ =>
      match card.sign psbt with
      | .psbt signed => signInTurn signed rest
      | .rawTransaction _ => (.ok .null, {})

variable {mk4}

/-- **The cards sign in turn.** -/
theorem relayPsbt_eq (hcodec : mk4.CarriesPsbts accepts) (psbt : String)
    (cards : List (ColdCard mk4 accepts)) :
    relayPsbt mk4 store psbt cards = signInTurn mk4 psbt cards := by
  induction cards generalizing psbt with
  | nil => rfl
  | cons card rest ih =>
    unfold relayPsbt signInTurn
    cases hrecords : mk4.ndefRecordsFromPSBT psbt with
    | error e =>
      rw [exportRawPsbtToMk4_run_error hrecords]
      rfl
    | ok cRecords =>
      obtain ⟨records, hrun, hread⟩ := exportRawPsbtToMk4_run_ok hcodec hrecords store
      rw [hrun]
      dsimp only
      rw [getPsbtFromMk4_run (card.answers hread)]
      cases card.sign psbt with
      | psbt signed => exact ih signed
      | rawTransaction rawTx => rfl

end Relay

/-! ## Two cards -/

/-- A library whose PSBT lists the keys that have signed, a letter each. A record has the letters
    as bytes, and an import adds those that it brings. -/
def LibMk4.letters : LibMk4 String where
  detectNDEFMessageType
    | [_] => .ok .PSBT
    | _ => .ok .OTHER
  ndefRecordsFromPSBT psbt :=
    if psbt.toList.all fun c => c.toNat < 256 then
      .ok [{ textRecord with payload := psbt.toList.map fun c => UInt8.ofNat c.toNat }]
    else .error (.base (-1) "not a letter")
  ndefRecordsToPSBT
    | [record] => .ok (String.ofList (record.payload.map fun b => Char.ofNat b.toNat))
    | _ => .error (.base (-2) "not a PSBT")
  ndefRecordsToRawTransaction _ := .error (.base (-3) "not a transaction")
  getTransaction _ txId store := (.ok { txid := txId, psbt := store }, store)
  importPsbt _ psbt store := (.ok { txid := "t", psbt := store ++ psbt }, store ++ psbt)
  importRawTransaction _ rawTx store :=
    (.ok { txid := "t", psbt := store ++ rawTx }, store ++ rawTx)

theorem LibMk4.letters_carriesPsbts : LibMk4.letters.CarriesPsbts acceptsKnown where
  accepted := by
    intro psbt records h
    unfold LibMk4.letters at h
    dsimp only at h
    split at h
    · cases h
      intro record hrecord
      rw [List.mem_singleton.mp hrecord]
      rfl
    · cases h
  readBack := by
    intro psbt records h
    unfold LibMk4.letters at h
    dsimp only at h
    split at h
    · next hletters =>
      cases h
      show Except.ok (some (CardAnswer.psbt (String.ofList _))) = _
      rw [List.map_map]
      have hsame : psbt.toList.map ((fun b : UInt8 => Char.ofNat b.toNat) ∘
          fun c : Char => UInt8.ofNat c.toNat) = psbt.toList := by
        rw [← List.map_id psbt.toList, List.map_map]
        apply List.map_congr_left
        intro c hc
        have hbyte : (UInt8.ofNat c.toNat).toNat = c.toNat :=
          UInt8.toNat_ofNat_of_lt' (of_decide_eq_true (List.all_eq_true.mp hletters c hc))
        simp [hbyte]
      rw [hsame, String.ofList_toList]
    · cases h

/-- A card that adds its letter. -/
def letterCard (letter : UInt8) : ColdCard LibMk4.letters acceptsKnown where
  sign psbt := .psbt (psbt ++ String.singleton (Char.ofNat letter.toNat))
  writes
    | [record] =>
      [⟨{ record.parts with payload := record.parts.payload ++ convert2JByteArray [letter] },
        record.accepted⟩]
    | records => records
  answers := by
    intro records psbt h
    match records, h with
    | [record], h =>
      have hpsbt : psbt = String.ofList ((convert2CByteArray record.parts.payload).map
          fun b => Char.ofNat b.toNat) :=
        (CardAnswer.psbt.inj (Option.some.inj (Except.ok.inj h))).symm
      show Except.ok (some (CardAnswer.psbt (String.ofList
        ((convert2CByteArray (record.parts.payload ++ convert2JByteArray [letter])).map
          fun b => Char.ofNat b.toNat)))) = _
      have hbytes : convert2CByteArray (record.parts.payload ++ convert2JByteArray [letter]) =
          convert2CByteArray record.parts.payload ++ [letter] := by
        rw [convert2CByteArray, List.map_append, ← convert2CByteArray, ← convert2CByteArray,
          nativeBytes_roundTrip]
      rw [hbytes, List.map_append, String.ofList_append, ← hpsbt]
      rfl

/-- The letters that an answer has. -/
def CardAnswer.letters : CardAnswer → Finset Char
  | .psbt text => text.toList.toFinset
  | .rawTransaction text => text.toList.toFinset

theorem LibMk4.letters_mergesSignatures :
    LibMk4.letters.MergesSignatures "w" "t" (fun store => store.toList.toFinset)
      CardAnswer.letters where
  get _ := rfl
  psbt h := by
    rw [← Except.ok.inj h]
    rfl
  imported := by
    intro answer store tx _
    cases answer with
    | psbt psbt =>
      show (store ++ psbt).toList.toFinset = _
      rw [String.toList_append, List.toFinset_append]
      rfl
    | rawTransaction rawTx =>
      show (store ++ rawTx).toList.toFinset = _
      rw [String.toList_append, List.toFinset_append]
      rfl
  refused := by
    intro answer store e h
    cases answer with
    | psbt psbt => cases h
    | rawTransaction rawTx => cases h

/-- Two cards, with the letters `a` and `b`. -/
def lettersAB (card : Bool) : ColdCard LibMk4.letters acceptsKnown :=
  letterCard (if card then 98 else 97)

/-- Both are handed the PSBT before either answer is collected. -/
def crossedEvents : List (TagEvent Bool) :=
  [.hand true, .hand false, .collect false, .collect true]

theorem lettersAB_sign (card : Bool) (psbt : String) :
    ((lettersAB card).sign psbt).letters =
      (CardAnswer.psbt psbt).letters ⊔ {if card then 'b' else 'a'} := by
  cases card with
  | false =>
    show (psbt ++ String.singleton 'a').toList.toFinset = _
    rw [String.toList_append, List.toFinset_append]
    rfl
  | true =>
    show (psbt ++ String.singleton 'b').toList.toFinset = _
    rw [String.toList_append, List.toFinset_append]
    rfl

/-- The tags carry it. -/
theorem crossedCards_carried :
    Carries LibMk4.letters
      (runFrom (tagStep LibNunchuk.plain lettersAB "w" "t") ⟨"", fun _ => none, []⟩ crossedEvents)
      (runFrom (psbtStep LibNunchuk.plain lettersAB "w" "t") ⟨"", fun _ => none, []⟩
        crossedEvents) :=
  airGap_refines LibMk4.letters_carriesPsbts ⟨rfl, rfl, fun _ => .none⟩ crossedEvents

/-- Both have signed. -/
theorem crossedCards_both_signed :
    (runFrom (tagStep LibNunchuk.plain lettersAB "w" "t") ⟨"", fun _ => none, []⟩
      crossedEvents).store.toList.toFinset = {'a', 'b'} := by
  have hcollected : collected LibNunchuk.plain lettersAB "w" "t" ⟨"", fun _ => none, []⟩
      crossedEvents = [false, true] := by decide
  calc
    _ = ("" : String).toList.toFinset ⊔
        (collected LibNunchuk.plain lettersAB "w" "t" ⟨"", fun _ => none, []⟩
          crossedEvents).toFinset.sup fun card => {if card then 'b' else 'a'} :=
      airGap_signatures LibMk4.letters_carriesPsbts LibMk4.letters_mergesSignatures lettersAB_sign
        "" crossedEvents
    _ = {'a', 'b'} := by
      rw [hcollected]
      decide

/-- A PSBT that no wallet has is signed by one and then by the other. -/
theorem lettersAB_relay :
    relayPsbt LibMk4.letters "" "" [lettersAB false, lettersAB true] =
      (.ok (.object "ab"), {}) := by
  rw [relayPsbt_eq _ LibMk4.letters_carriesPsbts]
  simp [signInTurn, lettersAB, letterCard, LibMk4.letters]

end NunchukSdk
