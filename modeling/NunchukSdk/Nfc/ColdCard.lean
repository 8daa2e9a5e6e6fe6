import NunchukSdk.Jni.Requests
import NunchukSdk.Jni.Strings
import NunchukSdk.Nfc.Records

/-!
# ColdCard Messages over NFC

A ColdCard signs a message that it reads from a tag. libnunchuk writes the request for a
derivation path and a message, `GenerateColdCardHealthCheckMessage`, and puts it into records,
`NDEFRecordsFromStr`. `generateColdCardHealthCheckMessage` returns these records to Kotlin;
`signMessageColdCard` builds the same request itself.

## Results

- `recordTexts_generate`, `recordTexts_sign`: the text that each method puts into records. The
  first one hands the **derivation path** over as the message when it is given a message.
- `coldCardMessage_iff`: it asks for the signature of the message only where both are one text,
  and it never tells two messages apart
-/

namespace NunchukSdk

open Foundation NativeM

/-! ## The two entry points -/

/-- `nunchuk::BitcoinSignedMessage`. -/
structure BitcoinSignedMessage where
  message : NativeString
  address : NativeString
  signature : NativeString
  deriving DecidableEq, Repr

/-- The library calls of the two methods. -/
structure LibColdCard where
  /-- `Utils::GenerateHealthCheckMessage`. -/
  generateHealthCheckMessage : Except CppException NativeString
  /-- `GenerateColdCardHealthCheckMessage` of a derivation path and a message. -/
  generateColdCardHealthCheckMessage :
    NativeString → NativeString → Except CppException NativeString
  ndefRecordsFromStr : NativeString → Except CppException (List NDEFRecord)
  ndefRecordToStr : NDEFRecord → Except CppException NativeString
  parseBitcoinSignedMessage : NativeString → Except CppException BitcoinSignedMessage

/-- Those calls as requests. -/
inductive ColdCardRequest where
  | generateHealthCheckMessage
  | generateColdCardHealthCheckMessage (derivationPath message : NativeString)
  | ndefRecordsFromStr (text : NativeString)
  | ndefRecordToStr (record : NDEFRecord)
  | parseBitcoinSignedMessage (text : NativeString)
  deriving DecidableEq, Repr

/-- The messages of one path get different requests. -/
def LibColdCard.InjectiveInMessage (lib : LibColdCard) : Prop :=
  ∀ derivationPath message message' text,
    lib.generateColdCardHealthCheckMessage derivationPath message = .ok text →
    lib.generateColdCardHealthCheckMessage derivationPath message' = .ok text → message = message'

variable (accepts : NdefRecordParts → Bool) (lib : LibColdCard)

/-- `LibNunchukAndroid_generateColdCardHealthCheckMessage`; `none` is a null message. -/
def generateColdCardHealthCheckMessage (derivationPath : JString) (message : Option JString) :
    Asking ColdCardRequest (JReturn (List (NdefRecord accepts))) :=
  asking
    (do
      let cMessage ← match message with
        | some _ => pure (stringWrapper derivationPath)
        | none => ask .generateHealthCheckMessage lib.generateHealthCheckMessage
      let data ←
        ask (.generateColdCardHealthCheckMessage (stringWrapper derivationPath) cMessage)
          (lib.generateColdCardHealthCheckMessage (stringWrapper derivationPath) cMessage)
      let cRecords ← ask (.ndefRecordsFromStr data) (lib.ndefRecordsFromStr data)
      let records ← onSnd (convert2JRecords accepts cRecords)
      pure (.object records))
    .null .null

/-- `LibNunchukAndroid_signMessageColdCard`. The first record of an empty vector is undefined. -/
def signMessageColdCard (derivationPath messagesToSign : JString) :
    Asking ColdCardRequest (JReturn JString) :=
  asking
    (do
      let generateMsg ←
        ask
          (.generateColdCardHealthCheckMessage (stringWrapper derivationPath)
            (stringWrapper messagesToSign))
          (lib.generateColdCardHealthCheckMessage (stringWrapper derivationPath)
            (stringWrapper messagesToSign))
      let records ← ask (.ndefRecordsFromStr generateMsg) (lib.ndefRecordsFromStr generateMsg)
      let record ← defined records.head?
      let str ← ask (.ndefRecordToStr record) (lib.ndefRecordToStr record)
      let signedMessage ← ask (.parseBitcoinSignedMessage str) (lib.parseBitcoinSignedMessage str)
      let signature ← defined (newStringUTF signedMessage.signature)
      pure (.object signature))
    .null .null

/-! ## The text in the records -/

/-- The texts that are put into records. -/
def recordTexts (requests : List ColdCardRequest) : List NativeString :=
  requests.filterMap fun
    | .ndefRecordsFromStr text => some text
    | _ => none

/-- The text of a request, when the library writes one. -/
def textsOf : Except CppException NativeString → List NativeString
  | .ok text => [text]
  | .error _ => []

/-- With a message, the records hold the request for the path as the message. -/
theorem recordTexts_generate (derivationPath message : JString) :
    recordTexts (requestsOf
        (generateColdCardHealthCheckMessage accepts lib derivationPath (some message))) =
      textsOf (lib.generateColdCardHealthCheckMessage (stringWrapper derivationPath)
        (stringWrapper derivationPath)) := by
  rw [generateColdCardHealthCheckMessage, requestsOf_asking]
  dsimp only
  rw [pure_bind_eq]
  unfold requestsOf
  -- the path goes in twice, whatever the message is
  cases lib.generateColdCardHealthCheckMessage (stringWrapper derivationPath)
      (stringWrapper derivationPath) with
  | error e => rfl
  | ok data =>
    rw [run_ask_ok_bind]
    cases lib.ndefRecordsFromStr data with
    | error e => rfl
    | ok cRecords =>
      rw [run_ask_ok_bind, KeepsFst.run_bind_fst fun _ => keepsFst_pure _, keepsFst_onSnd]
      rfl

/-- The records of `signMessageColdCard` hold the request for the message. -/
theorem recordTexts_sign (derivationPath message : JString) :
    recordTexts (requestsOf (signMessageColdCard lib derivationPath message)) =
      textsOf (lib.generateColdCardHealthCheckMessage (stringWrapper derivationPath)
        (stringWrapper message)) := by
  rw [signMessageColdCard, requestsOf_asking]
  unfold requestsOf
  cases lib.generateColdCardHealthCheckMessage (stringWrapper derivationPath)
      (stringWrapper message) with
  | error e => rfl
  | ok text =>
    rw [run_ask_ok_bind]
    cases lib.ndefRecordsFromStr text with
    | error e => rfl
    | ok records =>
      rw [run_ask_ok_bind]
      -- what follows puts nothing into records
      cases records with
      | nil => rfl
      | cons record records =>
        rw [List.head?_cons, defined, run_pure_bind]
        cases lib.ndefRecordToStr record with
        | error e => rfl
        | ok str =>
          rw [run_ask_ok_bind]
          cases lib.parseBitcoinSignedMessage str with
          | error e => rfl
          | ok signedMessage =>
            rw [run_ask_ok_bind]
            cases newStringUTF signedMessage.signature with
            | none => rfl
            | some signature => rfl

/-! ## Whose signature is asked for -/

/-- The records that are returned for a message hold the request of libnunchuk for this message,
    as the records of `signMessageColdCard` do. -/
def AsksForMessage (derivationPath message : JString) : Prop :=
  recordTexts (requestsOf
      (generateColdCardHealthCheckMessage accepts lib derivationPath (some message))) =
    textsOf (lib.generateColdCardHealthCheckMessage (stringWrapper derivationPath)
      (stringWrapper message)) ∧
  recordTexts (requestsOf
      (generateColdCardHealthCheckMessage accepts lib derivationPath (some message))) =
    recordTexts (requestsOf (signMessageColdCard lib derivationPath message))

/-- Two different messages get two different lists of records. -/
def TellsApart (derivationPath message message' : JString) : Prop :=
  message ≠ message' →
    ((generateColdCardHealthCheckMessage accepts lib derivationPath (some message)).run
        ([], {})).1 ≠
      ((generateColdCardHealthCheckMessage accepts lib derivationPath (some message')).run
        ([], {})).1

/-- libnunchuk writes no request for the path, neither with the message nor with the path as
    the message. -/
def WritesNone (derivationPath message : JString) : Prop :=
  (∃ e, lib.generateColdCardHealthCheckMessage (stringWrapper derivationPath)
      (stringWrapper derivationPath) = .error e) ∧
    ∃ e, lib.generateColdCardHealthCheckMessage (stringWrapper derivationPath)
      (stringWrapper message) = .error e

variable {lib}

/-- Two outcomes put the same texts into records when they are one text, or none at all. -/
theorem textsOf_eq_textsOf_iff (outcome outcome' : Except CppException NativeString) :
    textsOf outcome = textsOf outcome' ↔
      (∃ text, outcome = .ok text ∧ outcome' = .ok text) ∨
        (∃ e, outcome = .error e) ∧ ∃ e, outcome' = .error e := by
  cases outcome with
  | error e => cases outcome' <;> simp [textsOf]
  | ok text => cases outcome' <;> simp [textsOf, eq_comm]

/-- Two messages have the same request when they are one message, or when there is none. -/
theorem textsOf_eq_iff (hinjective : lib.InjectiveInMessage)
    (derivationPath message message' : NativeString) :
    textsOf (lib.generateColdCardHealthCheckMessage derivationPath message) =
        textsOf (lib.generateColdCardHealthCheckMessage derivationPath message') ↔
      message = message' ∨
        (∃ e, lib.generateColdCardHealthCheckMessage derivationPath message = .error e) ∧
          ∃ e, lib.generateColdCardHealthCheckMessage derivationPath message' = .error e := by
  rw [textsOf_eq_textsOf_iff]
  constructor
  · rintro (⟨text, htext, htext'⟩ | hnone)
    · exact Or.inl (hinjective derivationPath message message' text htext htext')
    · exact Or.inr hnone
  · rintro (rfl | hnone)
    · -- one message has one outcome
      cases houtcome : lib.generateColdCardHealthCheckMessage derivationPath message with
      | ok text => exact Or.inl ⟨text, rfl, rfl⟩
      | error e => exact Or.inr ⟨⟨e, rfl⟩, e, rfl⟩
    · exact Or.inr hnone

/-- **The signature that is asked for.** The records for a message ask for the signature of the
    message exactly when it is the derivation path itself, or when libnunchuk writes no request
    at all; they never tell two messages apart. -/
theorem coldCardMessage_iff (hinjective : lib.InjectiveInMessage)
    (derivationPath message message' : JString) :
    (AsksForMessage accepts lib derivationPath message ↔
      message = derivationPath ∨ WritesNone lib derivationPath message) ∧
    (TellsApart accepts lib derivationPath message message' ↔ message = message') := by
  refine ⟨?_, ?_⟩
  · unfold AsksForMessage WritesNone
    rw [recordTexts_generate, recordTexts_sign, and_self, textsOf_eq_iff hinjective,
      stringWrapper_injective.eq_iff, eq_comm (a := derivationPath)]
  · constructor
    · intro h
      -- the message is not looked at
      exact not_not.mp fun hne => h hne rfl
    · intro heq hne
      exact absurd heq hne

/-- A library that writes the message, a line break and the path into a text record. -/
def LibColdCard.plain : LibColdCard where
  generateHealthCheckMessage := .ok [110]
  generateColdCardHealthCheckMessage derivationPath message :=
    .ok (message ++ [10] ++ derivationPath)
  ndefRecordsFromStr text := .ok [{ textRecord with payload := [2, 101, 110] ++ text }]
  ndefRecordToStr record := .ok (record.payload.drop 3)
  parseBitcoinSignedMessage text := .ok ⟨text, [], []⟩

theorem LibColdCard.plain_injective : LibColdCard.plain.InjectiveInMessage := by
  intro derivationPath message message' text h h'
  have hsame : message ++ [10] ++ derivationPath = message' ++ [10] ++ derivationPath :=
    Except.ok.inj (h.trans h'.symm)
  rw [List.append_assoc, List.append_assoc] at hsame
  exact List.append_cancel_right hsame

/-- Asked to sign its own path `m`, the device gets that request. -/
theorem path_as_message_asked : AsksForMessage acceptsKnown LibColdCard.plain [109] [109] :=
  (coldCardMessage_iff acceptsKnown LibColdCard.plain_injective [109] [109] []).1.mpr (Or.inl rfl)

/-- Asked to sign `hi` for the path `m`, it gets the request to sign `m`. -/
theorem message_not_asked : ¬ AsksForMessage acceptsKnown LibColdCard.plain [109] [104, 105] := by
  rintro ⟨htexts, -⟩
  rw [recordTexts_generate] at htexts
  exact absurd htexts (by decide)

end NunchukSdk
