import NunchukSdk.Foundation.Utf16
import NunchukSdk.Jni.Requests
import NunchukSdk.Jni.Strings
import NunchukSdk.Marshal.Library
import NunchukSdk.Marshal.Transaction

/-!
# Texts That Are Hashed and Signed

`hashSHA256`, `getHealthCheckMessage` and `signMessageBySoftwareKey` hand a text of the app to
libnunchuk, which hashes or signs its bytes. The bytes are those of `StringWrapper`, modified
UTF-8; another client computes the hash or the signature from the UTF-8 of the text.

## Model

- A text is a list of Unicode scalar values; `Utf16.encode` is the Java string it is.
- `MessageRequest`: the calls into the library; `carried` are the bytes of the text in them

## Results

- `hashSHA256_utf8_iff`, `getHealthCheckMessage_utf8_iff`, `signMessageBySoftwareKey_utf8_iff`:
  when each method hands UTF-8 over
- `texts_reach_as_utf8_iff`: all of them do exactly for the texts without U+0000 and without
  supplementary characters
-/

namespace NunchukSdk

open Foundation NativeM

/-! ## The entry points -/

/-- The library calls of the three methods. -/
inductive MessageRequest where
  /-- `Utils::SHA256`. -/
  | sha256 (data : NativeString)
  /-- `Utils::GetHealthCheckMessage`. -/
  | getHealthCheckMessage (body : NativeString)
  | getSignerFromMasterSigner (masterSignerId path : NativeString)
  | signMessage (signer : SingleSigner) (message : NativeString)
  | getSignerAddress (signer : SingleSigner)
  | exportBitcoinSignedMessage (message address signature : NativeString)

/-- Their outcomes. -/
structure LibMessage where
  sha256 : NativeString → Except CppException NativeString
  getHealthCheckMessage : NativeString → Except CppException NativeString
  getSignerFromMasterSigner : NativeString → NativeString → Except CppException SingleSigner
  signMessage : SingleSigner → NativeString → Except CppException NativeString
  getSignerAddress : SingleSigner → Except CppException NativeString
  exportBitcoinSignedMessage :
    NativeString → NativeString → NativeString → Except CppException NativeString

/-- Kotlin `SignedMessage`. -/
structure JSignedMessage where
  address : JString := []
  signature : JString := []
  rfc2440 : JString := []
  deriving DecidableEq, Repr

/-- `Deserializer::convert2JSignedMessage`. -/
def convert2JSignedMessage (address signature rfc2440 : NativeString) : Jni JSignedMessage := do
  let jAddress ← defined (newStringUTF address)
  let jSignature ← defined (newStringUTF signature)
  let jRfc2440 ← defined (newStringUTF rfc2440)
  pure { address := jAddress, signature := jSignature, rfc2440 := jRfc2440 }

/-- `return env->NewStringUTF(text.c_str())`. -/
def returnString (text : NativeString) : Asking MessageRequest (JReturn JString) := do
  let jText ← defined (newStringUTF text)
  pure (.object jText)

variable (lib : LibMessage)

/-- `LibNunchukAndroid_hashSHA256`; neither clause has a `return`. -/
def hashSHA256 (data : JString) : Asking MessageRequest (JReturn JString) :=
  catchBaseStd
    (do
      let hashedData ← ask (.sha256 (stringWrapper data)) (lib.sha256 (stringWrapper data))
      returnString hashedData)
    (fun code what => do
      onSnd (convert2JException code what)
      undefinedBehaviour)
    (fun e => do
      onSnd (convertStdException2JException e)
      undefinedBehaviour)

/-- `LibNunchukAndroid_getHealthCheckMessage`. -/
def getHealthCheckMessage (body : JString) : Asking MessageRequest (JReturn JString) :=
  asking
    (do
      let message ← ask (.getHealthCheckMessage (stringWrapper body))
        (lib.getHealthCheckMessage (stringWrapper body))
      returnString message)
    .null .null

/-- `LibNunchukAndroid_signMessageBySoftwareKey`. -/
def signMessageBySoftwareKey (message path masterSignerId : JString) :
    Asking MessageRequest (JReturn JSignedMessage) :=
  asking
    (do
      let signer ← ask
        (.getSignerFromMasterSigner (stringWrapper masterSignerId) (stringWrapper path))
        (lib.getSignerFromMasterSigner (stringWrapper masterSignerId) (stringWrapper path))
      let signature ← ask (.signMessage signer (stringWrapper message))
        (lib.signMessage signer (stringWrapper message))
      let address ← ask (.getSignerAddress signer) (lib.getSignerAddress signer)
      let rfc2440 ← ask (.exportBitcoinSignedMessage (stringWrapper message) address signature)
        (lib.exportBitcoinSignedMessage (stringWrapper message) address signature)
      let signed ← onSnd (convert2JSignedMessage address signature rfc2440)
      pure (.object signed))
    .null .null

/-! ## What is handed over -/

/-- The bytes of the text in a call. -/
def MessageRequest.message : MessageRequest → Option NativeString
  | sha256 data => some data
  | getHealthCheckMessage body => some body
  | getSignerFromMasterSigner _ _ => none
  | signMessage _ message => some message
  | getSignerAddress _ => none
  | exportBitcoinSignedMessage message _ _ => some message

/-- The bytes of the text in all calls. -/
def carried (requests : List MessageRequest) : List NativeString :=
  requests.filterMap MessageRequest.message

/-- Wherever the text is handed over, it is as UTF-8. -/
def CarriesUtf8 (text : List Char) (requests : List MessageRequest) : Prop :=
  ∀ bytes ∈ carried requests, bytes = Utf16.utf8 text

theorem keepsFst_returnString (text : NativeString) : KeepsFst (returnString text) := by
  unfold returnString defined
  cases newStringUTF text with
  | none => exact keepsFst_undefinedBehaviour
  | some jText => exact keepsFst_pure _

theorem requestsOf_hashSHA256 (data : JString) :
    requestsOf (hashSHA256 lib data) = [.sha256 (stringWrapper data)] := by
  have hclauses : requestsOf (hashSHA256 lib data) =
      requestsOf (ask (.sha256 (stringWrapper data)) (lib.sha256 (stringWrapper data)) >>=
        returnString) := by
    apply run_catchBaseStd_fst
    · intro code what
      exact (keepsFst_onSnd _).bind fun _ => keepsFst_undefinedBehaviour
    · intro e
      exact (keepsFst_onSnd _).bind fun _ => keepsFst_undefinedBehaviour
  rw [hclauses, requestsOf_ask_bind keepsFst_returnString]

theorem requestsOf_getHealthCheckMessage (body : JString) :
    requestsOf (getHealthCheckMessage lib body) =
      [.getHealthCheckMessage (stringWrapper body)] := by
  rw [getHealthCheckMessage, requestsOf_asking, requestsOf_ask_bind keepsFst_returnString]

/-- A message is handed over once the signer is there, and always as the same bytes. -/
theorem carried_signMessageBySoftwareKey (message path masterSignerId : JString) :
    (∃ e, lib.getSignerFromMasterSigner (stringWrapper masterSignerId) (stringWrapper path) =
        .error e ∧ carried (requestsOf (signMessageBySoftwareKey lib message path masterSignerId)) =
          []) ∨
      ∃ signer n, lib.getSignerFromMasterSigner (stringWrapper masterSignerId)
          (stringWrapper path) = .ok signer ∧
        carried (requestsOf (signMessageBySoftwareKey lib message path masterSignerId)) =
          List.replicate (n + 1) (stringWrapper message) := by
  rw [signMessageBySoftwareKey, requestsOf_asking]
  cases hsigner : lib.getSignerFromMasterSigner (stringWrapper masterSignerId)
      (stringWrapper path) with
  | error e => exact Or.inl ⟨e, rfl, rfl⟩
  | ok signer =>
    -- how many calls get the message depends on where the method stops
    refine Or.inr ⟨signer, ?_⟩
    unfold requestsOf
    rw [run_ask_ok_bind]
    cases lib.signMessage signer (stringWrapper message) with
    | error e => exact ⟨0, rfl, rfl⟩
    | ok signature =>
      rw [run_ask_ok_bind]
      cases lib.getSignerAddress signer with
      | error e => exact ⟨0, rfl, rfl⟩
      | ok address =>
        rw [run_ask_ok_bind]
        cases lib.exportBitcoinSignedMessage (stringWrapper message) address signature with
        | error e => exact ⟨1, rfl, rfl⟩
        | ok rfc2440 =>
          refine ⟨1, rfl, ?_⟩
          rw [run_ask_ok_bind, KeepsFst.run_bind_fst fun _ => keepsFst_pure _, keepsFst_onSnd]
          rfl

/-! ## When it is UTF-8 -/

/-- The bytes that a text arrives as are its UTF-8 exactly when it is plain. -/
theorem stringWrapper_eq_utf8_iff (text : List Char) :
    stringWrapper (Utf16.encode text) = Utf16.utf8 text ↔ ∀ c ∈ text, Utf16.Plain c := by
  rw [stringWrapper_eq, Utf16.modifiedUtf8_eq_utf8_iff]

/-- Bytes that are handed over at least once, and always the same. -/
theorem carriesUtf8_replicate_iff {text : List Char} {requests : List MessageRequest} {n : Nat}
    (h : carried requests = List.replicate (n + 1) (stringWrapper (Utf16.encode text))) :
    CarriesUtf8 text requests ↔ ∀ c ∈ text, Utf16.Plain c := by
  unfold CarriesUtf8
  rw [h, ← stringWrapper_eq_utf8_iff]
  simp

theorem hashSHA256_utf8_iff (text : List Char) :
    CarriesUtf8 text (requestsOf (hashSHA256 lib (Utf16.encode text))) ↔
      ∀ c ∈ text, Utf16.Plain c := by
  rw [requestsOf_hashSHA256]
  exact carriesUtf8_replicate_iff (n := 0) rfl

theorem getHealthCheckMessage_utf8_iff (text : List Char) :
    CarriesUtf8 text (requestsOf (getHealthCheckMessage lib (Utf16.encode text))) ↔
      ∀ c ∈ text, Utf16.Plain c := by
  rw [requestsOf_getHealthCheckMessage]
  exact carriesUtf8_replicate_iff (n := 0) rfl

theorem signMessageBySoftwareKey_utf8_iff (text : List Char) (path masterSignerId : JString) :
    CarriesUtf8 text
        (requestsOf (signMessageBySoftwareKey lib (Utf16.encode text) path masterSignerId)) ↔
      (∃ e, lib.getSignerFromMasterSigner (stringWrapper masterSignerId) (stringWrapper path) =
        .error e) ∨ ∀ c ∈ text, Utf16.Plain c := by
  obtain ⟨e, he, hnone⟩ | ⟨signer, n, hsigner, hcarried⟩ :=
    carried_signMessageBySoftwareKey lib (Utf16.encode text) path masterSignerId
  · -- without a signer nothing is handed over
    refine iff_of_true ?_ (Or.inl ⟨e, he⟩)
    intro bytes hbytes
    rw [hnone] at hbytes
    cases hbytes
  · -- with one, the text goes out at least once
    rw [carriesUtf8_replicate_iff hcarried]
    constructor
    · intro hplain
      exact Or.inr hplain
    · rintro (⟨e, he⟩ | hplain)
      · rw [hsigner] at he
        cases he
      · exact hplain

/-- Each of the three methods hands the text over as UTF-8. -/
def ReachesAsUtf8 (text : List Char) : Prop :=
  CarriesUtf8 text (requestsOf (hashSHA256 lib (Utf16.encode text))) ∧
    CarriesUtf8 text (requestsOf (getHealthCheckMessage lib (Utf16.encode text))) ∧
    ∀ path masterSignerId, CarriesUtf8 text
      (requestsOf (signMessageBySoftwareKey lib (Utf16.encode text) path masterSignerId))

/-- **Texts reach the library as UTF-8** exactly when they have neither U+0000 nor a supplementary
    character. -/
theorem texts_reach_as_utf8_iff (text : List Char) :
    ReachesAsUtf8 lib text ↔ ∀ c ∈ text, Utf16.Plain c := by
  constructor
  · rintro ⟨hhash, -⟩
    exact (hashSHA256_utf8_iff lib text).mp hhash
  · intro hplain
    refine ⟨(hashSHA256_utf8_iff lib text).mpr hplain,
      (getHealthCheckMessage_utf8_iff lib text).mpr hplain, ?_⟩
    intro path masterSignerId
    exact (signMessageBySoftwareKey_utf8_iff lib text path masterSignerId).mpr (Or.inr hplain)

/-- A library that finds no signer and answers every other call with no text. -/
def LibMessage.silent : LibMessage where
  sha256 _ := .ok []
  getHealthCheckMessage _ := .ok []
  getSignerFromMasterSigner _ _ := .error (.base 0 "")
  signMessage _ _ := .ok []
  getSignerAddress _ := .ok []
  exportBitcoinSignedMessage _ _ _ := .ok []

/-- The text U+1F600 is hashed as six bytes instead of four. -/
theorem emoji_not_utf8 : ¬ ReachesAsUtf8 LibMessage.silent [Char.ofNat 0x1F600] := by
  rintro ⟨hhash, -⟩
  have hbytes : ([0xED, 0xA0, 0xBD, 0xED, 0xB8, 0x80] : NativeString) =
      [0xF0, 0x9F, 0x98, 0x80] :=
    hhash [0xED, 0xA0, 0xBD, 0xED, 0xB8, 0x80] (by decide)
  exact absurd hbytes (by decide)

end NunchukSdk
