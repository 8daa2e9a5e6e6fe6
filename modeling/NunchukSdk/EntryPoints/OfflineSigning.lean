import NunchukSdk.Jni.Requests
import NunchukSdk.Marshal.Transaction
import NunchukSdk.Marshal.Wallet

/-!
# Signing Offline

An inheritance claim is a transaction of a wallet that the app does not have. Four methods work on
its PSBT with the signers alone: they build a wallet in which all of them sign together, or parse
one from a BSMS record, and decode the PSBT with it.

- `decodeTx` shows the transaction
- `createInheritanceClaimTransaction` shows it as a draft, or signs it with every signer in turn
- `signSoftwarePsbt` signs it with one signer and decodes what was signed

## Results

- `run_signAll`: the loop over the signers, with its requests
- `claim_signedByAll`: a claim asks each signer in turn, up to the first that fails, and what is
  returned has the signature of every one; a draft asks for none
- `claim_eq_signEach`: signing with all signers in one call is signing with each in turn, where the
  app hands the PSBT text of one call to the next
-/

namespace NunchukSdk

open Foundation NativeM

/-! ## The entry points -/

/-- What the methods are given of the transaction. -/
structure OfflineTxArgs where
  psbt : String
  subAmount : String
  feeRate : String
  fee : String
  subtractFeeFromAmount : Bool

/-- The library calls of the methods. -/
structure LibOffline where
  /-- `Wallet(id, m, n, signers, address_type, is_escrow, create_date, true)`. -/
  newWallet : KeysWalletArgs → Except CppException Wallet
  /-- `Utils::ParseWalletDescriptor`. -/
  parseWalletDescriptor : String → Except CppException Wallet
  /-- `Utils::AmountFromValue`. -/
  amountFromValue : String → Except CppException Int
  /-- `Utils::DecodeTx(wallet, psbt, sub_amount, fee, fee_rate, subtract_fee_from_amount)`. -/
  decodeTx : Wallet → String → Int → Int → Int → Bool → Except CppException Transaction
  /-- `SignTransaction(wallet, tx, Device(master_fingerprint))`. -/
  signTransaction : Wallet → Transaction → String → Except CppException Transaction

/-- The signatures that are asked for. -/
structure SignRequest where
  wallet : Wallet
  transaction : Transaction
  masterFingerprint : String

section EntryPoints

variable (lib : LibNunchuk) (offline : LibOffline)

/-- The dummy wallet, in which all signers sign together. -/
def dummyWallet (singleSigners : List SingleSigner) : Except CppException Wallet :=
  offline.newWallet
    { id := ""
      m := singleSigners.length
      n := singleSigners.length
      signers := singleSigners
      addressType := .NATIVE_SEGWIT
      escrow := false
      createDate := 0 }

/-- The wallet of a claim; `none` is a null `bsms`. -/
def claimWallet (singleSigners : List SingleSigner) : Option String → Except CppException Wallet
  | some bsms =>
    if bsms ≠ "" then offline.parseWalletDescriptor bsms else dummyWallet offline singleSigners
  | none => dummyWallet offline singleSigners

/-- `DecodeTx` with the amounts of the request. The arguments of a call are evaluated from left to
    right. -/
def decodeWith (args : OfflineTxArgs) (wallet : Wallet) (psbt : String) :
    Except CppException Transaction := do
  let subAmount ← offline.amountFromValue args.subAmount
  let fee ← offline.amountFromValue args.fee
  let feeRate ← offline.amountFromValue args.feeRate
  offline.decodeTx wallet psbt subAmount fee feeRate args.subtractFeeFromAmount

/-- The loop of a claim over its signers. -/
def signAll (wallet : Wallet) : Transaction → List SingleSigner → Asking SignRequest Transaction
  | signedTx, [] => pure signedTx
  | signedTx, singleSigner :: rest => do
    let signedTx ← ask ⟨wallet, signedTx, singleSigner.masterFingerprint⟩
      (offline.signTransaction wallet signedTx singleSigner.masterFingerprint)
    signAll wallet signedTx rest

/-- `LibNunchukAndroid_createInheritanceClaimTransaction`. -/
def createInheritanceClaimTransaction (signers : List JSingleSigner) (args : OfflineTxArgs)
    (isDraft : Bool) (bsms : Option String) : Asking SignRequest (JReturn JTransaction) :=
  asking
    (do
      let singleSigners := convert2CSigners lib signers
      let wallet ← call (claimWallet offline singleSigners bsms)
      let tx ← call (decodeWith offline args wallet args.psbt)
      let draftTx ← onSnd (convert2JTransaction lib tx 0)
      if isDraft then pure (.object draftTx)
      else do
        let signedTx ← signAll offline wallet tx singleSigners
        let shown ← onSnd (convert2JTransaction lib signedTx 0)
        pure (.object shown))
    .null .null

/-- `LibNunchukAndroid_decodeTx`. -/
def decodeTx (signers : List JSingleSigner) (args : OfflineTxArgs) :
    Asking SignRequest (JReturn JTransaction) :=
  asking
    (do
      let wallet ← call (dummyWallet offline (convert2CSigners lib signers))
      let tx ← call (decodeWith offline args wallet args.psbt)
      let shown ← onSnd (convert2JTransaction lib tx 0)
      pure (.object shown))
    .null .null

/-- `LibNunchukAndroid_signSoftwarePsbt`. -/
def signSoftwarePsbt (masterSignerId : String) (signers : List JSingleSigner)
    (args : OfflineTxArgs) : Asking SignRequest (JReturn JTransaction) :=
  asking
    (do
      let wallet ← call (dummyWallet offline (convert2CSigners lib signers))
      let tx ← call (decodeWith offline args wallet args.psbt)
      let signedTx ← ask ⟨wallet, tx, masterSignerId⟩
        (offline.signTransaction wallet tx masterSignerId)
      let decodedTx ← call (decodeWith offline args wallet signedTx.psbt)
      let shown ← onSnd (convert2JTransaction lib decodedTx 0)
      pure (.object shown))
    .null .null

end EntryPoints

/-! ## The loop over the signers -/

section Loop

variable (offline : LibOffline) (wallet : Wallet)

/-- The transaction with the signature of every signer. -/
def signedByAll (tx : Transaction) (signers : List SingleSigner) :
    Except CppException Transaction :=
  signers.foldlM (fun tx signer => offline.signTransaction wallet tx signer.masterFingerprint) tx

/-- The signatures that are asked for: those of the signers in order, up to the first that
    fails. -/
def signRequests : Transaction → List SingleSigner → List SignRequest
  | _, [] => []
  | tx, signer :: rest =>
    ⟨wallet, tx, signer.masterFingerprint⟩ ::
      match offline.signTransaction wallet tx signer.masterFingerprint with
      | .ok signedTx => signRequests signedTx rest
      | .error _ => []

theorem run_signAll (tx : Transaction) (signers : List SingleSigner) (requests : List SignRequest)
    (env : JavaEnv) :
    (signAll offline wallet tx signers).run (requests, env) =
      ((signedByAll offline wallet tx signers).mapError Fault.thrown,
        (requests ++ signRequests offline wallet tx signers, env)) := by
  induction signers generalizing tx requests with
  | nil =>
    rw [signRequests, List.append_nil]
    rfl
  | cons signer rest ih =>
    unfold signAll signedByAll
    rw [signRequests, List.foldlM_cons]
    cases hsign : offline.signTransaction wallet tx signer.masterFingerprint with
    | error e => rfl
    | ok signedTx =>
      rw [run_ask_ok_bind, ih, List.append_assoc]
      rfl

/-- The signers whose signatures are asked for are the first ones of the list, each once. -/
theorem signRequests_prefix (tx : Transaction) (signers : List SingleSigner) :
    (signRequests offline wallet tx signers).map SignRequest.masterFingerprint <+:
      signers.map SingleSigner.masterFingerprint := by
  induction signers generalizing tx with
  | nil => exact List.prefix_refl []
  | cons signer rest ih =>
    rw [signRequests, List.map_cons, List.map_cons, List.prefix_cons_inj]
    cases offline.signTransaction wallet tx signer.masterFingerprint with
    | error e => exact List.nil_prefix
    | ok signedTx => exact ih signedTx

/-- A signer is asked when all before it have signed, and for what they signed. -/
theorem getElem?_signRequests (tx : Transaction) (before : List SingleSigner)
    (signer : SingleSigner) (after : List SingleSigner) :
    (signRequests offline wallet tx (before ++ signer :: after))[before.length]? =
      match signedByAll offline wallet tx before with
      | .ok signedTx => some ⟨wallet, signedTx, signer.masterFingerprint⟩
      | .error _ => none := by
  induction before generalizing tx with
  | nil => rfl
  | cons first rest ih =>
    rw [List.cons_append, signRequests, List.length_cons, List.getElem?_cons_succ]
    unfold signedByAll
    rw [List.foldlM_cons]
    cases offline.signTransaction wallet tx first.masterFingerprint with
    | error e => rfl
    | ok signedTx => exact ih signedTx

/-- The key is one of the wallet. -/
def Wallet.HasKey (wallet : Wallet) (masterFingerprint : String) : Prop :=
  ∃ signer ∈ wallet.signers, signer.masterFingerprint = masterFingerprint

instance (wallet : Wallet) : DecidablePred wallet.HasKey := fun masterFingerprint =>
  inferInstanceAs (Decidable (∃ signer ∈ wallet.signers,
    signer.masterFingerprint = masterFingerprint))

/-- What a signature does: a key of the wallet has signed, nobody's signature is lost, and the
    outputs stay. -/
structure LibOffline.Signs (offline : LibOffline) : Prop where
  signed : ∀ {wallet tx id tx'}, offline.signTransaction wallet tx id = .ok tx' →
    wallet.HasKey id → tx'.signers.lookup id = some true
  kept : ∀ {wallet tx id tx' id'}, offline.signTransaction wallet tx id = .ok tx' →
    tx.signers.lookup id' = some true → tx'.signers.lookup id' = some true
  outputs : ∀ {wallet tx id tx'}, offline.signTransaction wallet tx id = .ok tx' →
    tx'.outputs = tx.outputs

variable {offline wallet}

/-- A signature that is made, and the rest of the loop. -/
theorem signedByAll_cons_ok {signer : SingleSigner} {rest : List SingleSigner}
    {tx tx' : Transaction} :
    signedByAll offline wallet tx (signer :: rest) = .ok tx' ↔
      ∃ signedTx, offline.signTransaction wallet tx signer.masterFingerprint = .ok signedTx ∧
        signedByAll offline wallet signedTx rest = .ok tx' := by
  unfold signedByAll
  rw [List.foldlM_cons]
  exact bind_eq_ok

/-- A signature stays through the rest of the loop. -/
theorem signedByAll_keeps (h : offline.Signs) {signers : List SingleSigner} {tx tx' : Transaction}
    (hall : signedByAll offline wallet tx signers = .ok tx') {id : String}
    (hid : tx.signers.lookup id = some true) : tx'.signers.lookup id = some true := by
  induction signers generalizing tx with
  | nil =>
    rw [← Except.ok.inj hall]
    exact hid
  | cons signer rest ih =>
    obtain ⟨signedTx, hsign, hrest⟩ := signedByAll_cons_ok.mp hall
    exact ih hrest (h.kept hsign hid)

/-- The loop leaves no signer out. -/
theorem signedByAll_signed (h : offline.Signs) {signers : List SingleSigner} {tx tx' : Transaction}
    (hall : signedByAll offline wallet tx signers = .ok tx') :
    ∀ signer ∈ signers, wallet.HasKey signer.masterFingerprint →
      tx'.signers.lookup signer.masterFingerprint = some true := by
  induction signers generalizing tx with
  | nil => exact fun _ hmem => nomatch hmem
  | cons signer rest ih =>
    obtain ⟨signedTx, hsign, hrest⟩ := signedByAll_cons_ok.mp hall
    intro other hother hkey
    rcases List.mem_cons.mp hother with rfl | hlater
    · exact signedByAll_keeps h hrest (h.signed hsign hkey)
    · exact ih hrest other hlater hkey

/-- Every signature was asked for. -/
theorem signRequests_of_signed {signers : List SingleSigner} {tx tx' : Transaction}
    (hall : signedByAll offline wallet tx signers = .ok tx') :
    (signRequests offline wallet tx signers).map SignRequest.masterFingerprint =
      signers.map SingleSigner.masterFingerprint := by
  induction signers generalizing tx with
  | nil => rfl
  | cons signer rest ih =>
    obtain ⟨signedTx, hsign, hrest⟩ := signedByAll_cons_ok.mp hall
    rw [signRequests, hsign, List.map_cons, List.map_cons]
    exact congrArg _ (ih hrest)

end Loop

/-! ## What Java sees -/

section Results

variable {α : Type} (lib : LibNunchuk) (offline : LibOffline)

/-- The transaction that `decodeTx` shows, with the wallet it was decoded with. -/
def decoded (singleSigners : List SingleSigner) (args : OfflineTxArgs) (bsms : Option String) :
    Except CppException (Wallet × Transaction) := do
  let wallet ← claimWallet offline singleSigners bsms
  let tx ← decodeWith offline args wallet args.psbt
  pure (wallet, tx)

/-- The claim: the draft can be shown, and every signature was made. -/
def claimResult (singleSigners : List SingleSigner) (args : OfflineTxArgs)
    (bsms : Option String) : JResult JTransaction :=
  match decoded offline singleSigners args bsms with
  | .error e => shownOutcome lib (.error e)
  | .ok (wallet, tx) =>
    match shownTransaction lib tx 0 with
    | none => (.error .undefinedBehaviour, {})
    | some _ => shownOutcome lib (signedByAll offline wallet tx singleSigners)

/-- What is asked for the claim. -/
def claimRequests (singleSigners : List SingleSigner) (args : OfflineTxArgs)
    (bsms : Option String) : List SignRequest :=
  match decoded offline singleSigners args bsms with
  | .error _ => []
  | .ok (wallet, tx) =>
    match shownTransaction lib tx 0 with
    | none => []
    | some _ => signRequests offline wallet tx singleSigners

variable {lib offline}

/-- A conversion returns its object or leaves the run undefined. -/
theorem run_convert_bind (tx : Transaction) (k : JTransaction → Asking SignRequest α)
    (requests : List SignRequest) (env : JavaEnv) :
    (onSnd (convert2JTransaction lib tx 0) >>= k).run (requests, env) =
      match shownTransaction lib tx 0 with
      | some shown => (k shown).run (requests, env)
      | none => (.error .undefinedBehaviour, (requests, env)) := by
  rw [convert2JTransaction_eq, run_bind, run_onSnd]
  cases shownTransaction lib tx 0 with
  | none => rfl
  | some shown => rfl

/-- The start of each method: the wallet and the transaction. -/
theorem run_decoded_bind (offline : LibOffline) (singleSigners : List SingleSigner)
    (args : OfflineTxArgs) (bsms : Option String)
    (k : Wallet → Transaction → Asking SignRequest α) (s : List SignRequest × JavaEnv) :
    (do
      let wallet ← call (claimWallet offline singleSigners bsms)
      let tx ← call (decodeWith offline args wallet args.psbt)
      k wallet tx : Asking SignRequest α).run s =
      match decoded offline singleSigners args bsms with
      | .ok (wallet, tx) => (k wallet tx).run s
      | .error e => (.error (.thrown e), s) := by
  unfold decoded
  cases claimWallet offline singleSigners bsms with
  | error e => rfl
  | ok wallet =>
    rw [run_call_ok_bind]
    show _ = match decodeWith offline args wallet args.psbt >>= fun tx => pure (wallet, tx) with
      | .ok (wallet, tx) => (k wallet tx).run s
      | .error e => (.error (.thrown e), s)
    cases decodeWith offline args wallet args.psbt with
    | error e => rfl
    | ok tx => rfl

theorem run_decodeTx (signers : List JSingleSigner) (args : OfflineTxArgs) :
    (decodeTx lib offline signers args).run ([], {}) =
      ((shownOutcome lib ((decoded offline (convert2CSigners lib signers) args none).map
          Prod.snd)).1, ([],
        (shownOutcome lib ((decoded offline (convert2CSigners lib signers) args none).map
          Prod.snd)).2)) := by
  have hstart := run_decoded_bind offline (convert2CSigners lib signers) args none
    (fun _ tx => do
      let shown ← onSnd (convert2JTransaction lib tx 0)
      pure (JReturn.object shown)) ([], {})
  unfold decodeTx
  rw [run_asking]
  rw [claimWallet] at hstart
  rw [hstart]
  rcases decoded offline (convert2CSigners lib signers) args none with e | ⟨wallet, tx⟩
  · simp only [ite_self]
    rfl
  · dsimp only
    rw [run_convert_bind]
    simp only [Except.map, shownOutcome]
    cases shownTransaction lib tx 0 with
    | none => rfl
    | some shown => rfl

/-- A claim that is not a draft: its result and its requests. -/
theorem run_createInheritanceClaimTransaction (signers : List JSingleSigner)
    (args : OfflineTxArgs) (bsms : Option String) :
    (createInheritanceClaimTransaction lib offline signers args false bsms).run ([], {}) =
      ((claimResult lib offline (convert2CSigners lib signers) args bsms).1,
        (claimRequests lib offline (convert2CSigners lib signers) args bsms,
          (claimResult lib offline (convert2CSigners lib signers) args bsms).2)) := by
  unfold createInheritanceClaimTransaction claimResult claimRequests
  rw [run_asking, run_decoded_bind]
  rcases decoded offline (convert2CSigners lib signers) args bsms with e | ⟨wallet, tx⟩
  · simp only [ite_self]
    rfl
  · dsimp only
    rw [run_convert_bind]
    cases shownTransaction lib tx 0 with
    | none => rfl
    | some draftTx =>
      -- the draft is thrown away, and the loop starts from the transaction
      simp only [Bool.false_eq_true, if_false]
      rw [run_bind, run_signAll, List.nil_append]
      cases signedByAll offline wallet tx (convert2CSigners lib signers) with
      | error e =>
        simp only [Except.mapError, ite_self]
        rfl
      | ok signedTx =>
        simp only [Except.mapError]
        rw [run_convert_bind, shownOutcome]
        cases shownTransaction lib signedTx 0 with
        | none => rfl
        | some shown => rfl

/-- What Java sees of a software signature. -/
theorem javaResult_signSoftwarePsbt (masterSignerId : String) (signers : List JSingleSigner)
    (args : OfflineTxArgs) :
    javaResult (signSoftwarePsbt lib offline masterSignerId signers args) =
      shownOutcome lib (do
        let (wallet, tx) ← decoded offline (convert2CSigners lib signers) args none
        let signedTx ← offline.signTransaction wallet tx masterSignerId
        decodeWith offline args wallet signedTx.psbt) := by
  have hstart := run_decoded_bind offline (convert2CSigners lib signers) args none
    (fun wallet tx => do
      let signedTx ← ask ⟨wallet, tx, masterSignerId⟩
        (offline.signTransaction wallet tx masterSignerId)
      let decodedTx ← call (decodeWith offline args wallet signedTx.psbt)
      let shown ← onSnd (convert2JTransaction lib decodedTx 0)
      pure (JReturn.object shown)) ([], {})
  rw [claimWallet] at hstart
  unfold signSoftwarePsbt javaResult
  rw [run_asking, hstart]
  rcases decoded offline (convert2CSigners lib signers) args none with e | ⟨wallet, tx⟩
  · simp only [ite_self]
    rfl
  · dsimp only
    show _ = shownOutcome lib (offline.signTransaction wallet tx masterSignerId >>= fun signedTx =>
      decodeWith offline args wallet signedTx.psbt)
    cases offline.signTransaction wallet tx masterSignerId with
    | error e =>
      simp only [run_ask_error_bind, ite_self]
      rfl
    | ok signedTx =>
      rw [run_ask_ok_bind]
      show _ = shownOutcome lib (decodeWith offline args wallet signedTx.psbt)
      cases decodeWith offline args wallet signedTx.psbt with
      | error e =>
        simp only [run_call_error_bind, ite_self]
        rfl
      | ok decodedTx =>
        rw [run_call_ok_bind, run_convert_bind, shownOutcome]
        cases shownTransaction lib decodedTx 0 with
        | none => rfl
        | some shown => rfl

end Results

/-! ## The claim and its signatures -/

section Claim

variable {lib : LibNunchuk} {offline : LibOffline}

theorem masterFingerprint_convert2CSigner (hlib : lib.ConstructorsKeep) (signer : JSingleSigner) :
    (convert2CSigner lib signer).masterFingerprint = signer.masterFingerprint :=
  congrArg SignerScriptData.masterFingerprint (scriptData_convert2CSigner hlib signer)

theorem masterFingerprints_convert2CSigners (hlib : lib.ConstructorsKeep)
    (signers : List JSingleSigner) :
    (convert2CSigners lib signers).map SingleSigner.masterFingerprint =
      signers.map JSingleSigner.masterFingerprint := by
  rw [convert2CSigners, List.map_map]
  apply List.map_congr_left
  exact fun signer _ => masterFingerprint_convert2CSigner hlib signer

/-- The wallet of what was decoded. -/
theorem claimWallet_of_decoded {singleSigners : List SingleSigner} {args : OfflineTxArgs}
    {bsms : Option String} {wallet : Wallet} {tx : Transaction}
    (h : decoded offline singleSigners args bsms = .ok (wallet, tx)) :
    claimWallet offline singleSigners bsms = .ok wallet ∧
      decodeWith offline args wallet args.psbt = .ok tx := by
  obtain ⟨wallet', hwallet, h⟩ := bind_eq_ok.mp h
  obtain ⟨tx', htx, h⟩ := bind_eq_ok.mp h
  cases h
  exact ⟨hwallet, htx⟩

/-- A draft is shown before anything is signed. -/
theorem requests_draft (signers : List JSingleSigner) (args : OfflineTxArgs)
    (bsms : Option String) :
    requestsOf (createInheritanceClaimTransaction lib offline signers args true bsms) = [] := by
  rw [createInheritanceClaimTransaction, requestsOf_asking, requestsOf, run_decoded_bind]
  rcases decoded offline (convert2CSigners lib signers) args bsms with e | ⟨wallet, tx⟩
  · rfl
  · dsimp only
    rw [run_convert_bind]
    cases shownTransaction lib tx 0 with
    | none => rfl
    | some draftTx => rfl

/-- What is behind a claim that is returned. -/
theorem claim_of_shown {singleSigners : List SingleSigner} {args : OfflineTxArgs}
    {bsms : Option String} {shown : JTransaction} {requests : List SignRequest} {env : JavaEnv}
    (h : ((claimResult lib offline singleSigners args bsms).1,
      (claimRequests lib offline singleSigners args bsms,
        (claimResult lib offline singleSigners args bsms).2)) =
      (.ok (.object shown), (requests, env))) :
    ∃ wallet tx signedTx, decoded offline singleSigners args bsms = .ok (wallet, tx) ∧
      signedByAll offline wallet tx singleSigners = .ok signedTx ∧
      shownTransaction lib signedTx 0 = some shown ∧
      requests = signRequests offline wallet tx singleSigners := by
  unfold claimResult claimRequests at h
  rcases hdecoded : decoded offline singleSigners args bsms with e | ⟨wallet, tx⟩
  · rw [hdecoded] at h
    cases h
  · rw [hdecoded] at h
    dsimp only at h
    cases hdraft : shownTransaction lib tx 0 with
    | none =>
      rw [hdraft] at h
      cases h
    | some draftTx =>
      rw [hdraft] at h
      dsimp only at h
      cases hall : signedByAll offline wallet tx singleSigners with
      | error e =>
        rw [hall] at h
        cases h
      | ok signedTx =>
        rw [hall, shownOutcome] at h
        cases hshown : shownTransaction lib signedTx 0 with
        | none =>
          rw [hshown] at h
          cases h
        | some shown' =>
          rw [hshown] at h
          cases h
          exact ⟨wallet, tx, signedTx, rfl, hall, hshown, rfl⟩

/-- One more key has signed, if it is one of the wallet. -/
def Wallet.addSigned (wallet : Wallet) (signed : AList fun _ : String => Bool) (key : String) :
    AList fun _ : String => Bool :=
  if wallet.HasKey key then signed.insert key true else signed

theorem Wallet.lookup_addSigned (wallet : Wallet) (signed : AList fun _ : String => Bool)
    (key other : String) :
    (wallet.addSigned signed key).lookup other = some true ↔
      signed.lookup other = some true ∨ wallet.HasKey key ∧ key = other := by
  unfold Wallet.addSigned
  split
  · next hkey =>
    by_cases hother : other = key
    · rw [hother, AList.lookup_insert]
      simp [hkey]
    · rw [AList.lookup_insert_ne hother]
      simp [Ne.symm hother]
  · next hkey => simp [hkey]

/-- A library whose PSBT lists the keys that have signed, a letter each. A transaction has the
    signatures of those that are keys of its wallet. -/
def LibOffline.letters : LibOffline where
  newWallet args := .ok (LibNunchuk.plain.newKeysWallet args)
  parseWalletDescriptor _ := .error (.base (-1) "not a descriptor")
  amountFromValue _ := .ok 0
  decodeTx wallet psbt _ _ _ _ := .ok
    { txid := "t"
      psbt := psbt
      signers :=
        psbt.toList.foldl (fun signed c => wallet.addSigned signed (String.singleton c)) ∅ }
  signTransaction wallet tx masterFingerprint :=
    match masterFingerprint.toList with
    | [c] => .ok
      { tx with
        psbt := tx.psbt ++ String.singleton c
        signers := wallet.addSigned tx.signers (String.singleton c) }
    | _ => .error (.base (-2) "unknown key")

theorem LibOffline.letters_sign {wallet : Wallet} {tx tx' : Transaction} {id : String}
    (h : LibOffline.letters.signTransaction wallet tx id = .ok tx') :
    tx' = { tx with psbt := tx.psbt ++ id, signers := wallet.addSigned tx.signers id } ∧
      ∃ c, id = String.singleton c := by
  unfold LibOffline.letters at h
  dsimp only at h
  split at h
  · next c hc =>
    have hid : id = String.singleton c := by
      apply String.toList_inj.mp
      rw [hc, String.toList_singleton]
    rw [hid]
    exact ⟨(Except.ok.inj h).symm, c, rfl⟩
  · cases h

theorem LibOffline.letters_signs : LibOffline.letters.Signs where
  signed {wallet tx id tx'} h hkey := by
    rw [(LibOffline.letters_sign h).1]
    exact (wallet.lookup_addSigned tx.signers id id).mpr (Or.inr ⟨hkey, rfl⟩)
  kept {wallet tx id tx' id'} h hkept := by
    rw [(LibOffline.letters_sign h).1]
    exact (wallet.lookup_addSigned tx.signers id id').mpr (Or.inl hkept)
  outputs h := by rw [(LibOffline.letters_sign h).1]

/-- Two keys of a wallet, and the PSBT that neither has signed yet. -/
def claimSigners : List JSingleSigner :=
  [{ masterFingerprint := "a" }, { masterFingerprint := "b" }]

def claimArgs : OfflineTxArgs where
  psbt := ""
  subAmount := "0"
  feeRate := "0"
  fee := "0"
  subtractFeeFromAmount := false

/-- **Every signer has signed the claim.** A draft asks for no signature. Otherwise the run is that
    of the loop over the signers: each is asked in its turn, for the transaction that all before it
    have signed, and the first that fails ends the claim. What is returned was signed by each of
    them that has a key of the wallet. -/
theorem claim_signedByAll (hlib : lib.ConstructorsKeep) (h : offline.Signs)
    (signers : List JSingleSigner) (args : OfflineTxArgs) (bsms : Option String) :
    requestsOf (createInheritanceClaimTransaction lib offline signers args true bsms) = [] ∧
    (createInheritanceClaimTransaction lib offline signers args false bsms).run ([], {}) =
      ((claimResult lib offline (convert2CSigners lib signers) args bsms).1,
        (claimRequests lib offline (convert2CSigners lib signers) args bsms,
          (claimResult lib offline (convert2CSigners lib signers) args bsms).2)) ∧
    (∀ wallet tx draftTx,
      decoded offline (convert2CSigners lib signers) args bsms = .ok (wallet, tx) →
      shownTransaction lib tx 0 = some draftTx →
      ∀ before signer after, signers = before ++ signer :: after →
        (requestsOf (createInheritanceClaimTransaction lib offline signers args false
            bsms))[before.length]? =
          match signedByAll offline wallet tx (convert2CSigners lib before) with
          | .ok signedTx => some ⟨wallet, signedTx, signer.masterFingerprint⟩
          | .error _ => none) ∧
    (requestsOf (createInheritanceClaimTransaction lib offline signers args false bsms)).map
        SignRequest.masterFingerprint <+: signers.map JSingleSigner.masterFingerprint ∧
    ∀ shown requests env,
      (createInheritanceClaimTransaction lib offline signers args false bsms).run ([], {}) =
          (.ok (.object shown), (requests, env)) →
        requests.map SignRequest.masterFingerprint = signers.map JSingleSigner.masterFingerprint ∧
        ∃ wallet, claimWallet offline (convert2CSigners lib signers) bsms = .ok wallet ∧
          ∀ signer ∈ signers, wallet.HasKey signer.masterFingerprint →
            shown.signers.lookup signer.masterFingerprint = some true := by
  refine ⟨?_, run_createInheritanceClaimTransaction signers args bsms, ?_, ?_, ?_⟩
  · exact requests_draft signers args bsms
  · intro wallet tx draftTx hdecoded hdraft before signer after hsigners
    have hrequests : claimRequests lib offline (convert2CSigners lib signers) args bsms =
        signRequests offline wallet tx (convert2CSigners lib signers) := by
      simp only [claimRequests, hdecoded, hdraft]
    have hloop := getElem?_signRequests offline wallet tx (convert2CSigners lib before)
      (convert2CSigner lib signer) (convert2CSigners lib after)
    rw [requestsOf, run_createInheritanceClaimTransaction, hrequests, hsigners,
      ← masterFingerprint_convert2CSigner hlib signer]
    simpa only [convert2CSigners, List.map_append, List.map_cons, List.length_map] using hloop
  · rw [requestsOf, run_createInheritanceClaimTransaction,
      ← masterFingerprints_convert2CSigners hlib]
    unfold claimRequests
    rcases decoded offline (convert2CSigners lib signers) args bsms with e | ⟨wallet, tx⟩
    · exact List.nil_prefix
    · dsimp only
      cases shownTransaction lib tx 0 with
      | none => exact List.nil_prefix
      | some draftTx => exact signRequests_prefix offline wallet tx _
  · intro shown requests env hrun
    rw [run_createInheritanceClaimTransaction] at hrun
    obtain ⟨wallet, tx, signedTx, hdecoded, hall, hshown, hrequests⟩ := claim_of_shown hrun
    rw [hrequests, ← masterFingerprints_convert2CSigners hlib]
    refine ⟨signRequests_of_signed hall, wallet, (claimWallet_of_decoded hdecoded).1, ?_⟩
    intro signer hsigner hkey
    rw [(fields_shownTransaction hshown).2]
    apply lookup_convert2JStringBooleanMap
    have hfingerprint := masterFingerprint_convert2CSigner hlib signer
    rw [← hfingerprint] at hkey ⊢
    exact signedByAll_signed h hall _ (List.mem_map_of_mem hsigner) hkey

/-- Both keys are asked, the second for what the first has signed, and both have signed. -/
theorem twoKeys_claim_signed :
    ∃ shown requests env,
      (createInheritanceClaimTransaction LibNunchuk.plain LibOffline.letters claimSigners claimArgs
        false none).run ([], {}) = (.ok (.object shown), (requests, env)) ∧
      requests.map SignRequest.masterFingerprint = ["a", "b"] ∧
      requests[1]?.map (fun request => request.transaction.psbt) = some "a" ∧
      ∀ signer ∈ claimSigners, shown.signers.lookup signer.masterFingerprint = some true := by
  obtain ⟨-, hrun, hasked, -, hreturned⟩ :=
    claim_signedByAll LibNunchuk.plain_constructorsKeep LibOffline.letters_signs claimSigners
      claimArgs none
  obtain ⟨shown, requests, env, hshown⟩ : ∃ shown requests env,
      (createInheritanceClaimTransaction LibNunchuk.plain LibOffline.letters claimSigners claimArgs
        false none).run ([], {}) = (.ok (.object shown), (requests, env)) :=
    ⟨_, _, _, hrun.trans rfl⟩
  obtain ⟨hrequests, wallet, hwallet, hsigned⟩ := hreturned shown requests env hshown
  refine ⟨shown, requests, env, hshown, hrequests, ?_, ?_⟩
  · have hsecond := hasked _ _ _ rfl rfl (claimSigners.take 1)
      (claimSigners.getLast (List.cons_ne_nil _ _)) [] rfl
    rw [requestsOf, hshown] at hsecond
    exact (congrArg (Option.map fun request => request.transaction.psbt) hsecond).trans rfl
  · intro signer hsigner
    refine hsigned signer hsigner ?_
    -- the wallet was made of these signers
    cases hwallet
    exact ⟨convert2CSigner LibNunchuk.plain signer, List.mem_map_of_mem hsigner, rfl⟩

end Claim

/-! ## One call or many -/

section Chain

variable (lib : LibNunchuk) (offline : LibOffline)

/-- The app signs with one signer after the other: it hands the PSBT of the transaction it was
    shown to the next call, and stops at the first one that returns no transaction. -/
def signEach (signers : List JSingleSigner) (args : OfflineTxArgs) :
    JTransaction → List JSingleSigner → JResult JTransaction
  | shown, [] => (.ok (.object shown), {})
  | shown, signer :: rest =>
    match javaResult (signSoftwarePsbt lib offline signer.masterFingerprint signers
        { args with psbt := shown.psbt }) with
    | (.ok (.object next), _) => signEach signers args next rest
    | failed => failed

/-- A PSBT is decoded into a transaction that has it, and the PSBT of a signed transaction into the
    signed transaction. -/
structure LibOffline.Decodes (offline : LibOffline) : Prop where
  psbt : ∀ {wallet psbt subAmount fee feeRate subtract tx},
    offline.decodeTx wallet psbt subAmount fee feeRate subtract = .ok tx → tx.psbt = psbt
  signed : ∀ {wallet psbt subAmount fee feeRate subtract tx id tx'},
    offline.decodeTx wallet psbt subAmount fee feeRate subtract = .ok tx →
    offline.signTransaction wallet tx id = .ok tx' →
    offline.decodeTx wallet tx'.psbt subAmount fee feeRate subtract = .ok tx'

variable {lib offline} {args : OfflineTxArgs} {wallet : Wallet}

theorem decodeWith_eq_ok {psbt : String} {tx : Transaction} :
    decodeWith offline args wallet psbt = .ok tx ↔
      ∃ subAmount fee feeRate, offline.amountFromValue args.subAmount = .ok subAmount ∧
        offline.amountFromValue args.fee = .ok fee ∧
        offline.amountFromValue args.feeRate = .ok feeRate ∧
        offline.decodeTx wallet psbt subAmount fee feeRate args.subtractFeeFromAmount = .ok tx := by
  simp only [decodeWith, bind_eq_ok]
  constructor
  · rintro ⟨subAmount, hsub, fee, hfee, feeRate, hrate, hdecode⟩
    exact ⟨subAmount, fee, feeRate, hsub, hfee, hrate, hdecode⟩
  · rintro ⟨subAmount, fee, feeRate, hsub, hfee, hrate, hdecode⟩
    exact ⟨subAmount, hsub, fee, hfee, feeRate, hrate, hdecode⟩

theorem psbt_decodeWith (h : offline.Decodes) {psbt : String} {tx : Transaction}
    (hdecode : decodeWith offline args wallet psbt = .ok tx) : tx.psbt = psbt := by
  obtain ⟨subAmount, fee, feeRate, -, -, -, htx⟩ := decodeWith_eq_ok.mp hdecode
  exact h.psbt htx

theorem decodeWith_signed (h : offline.Decodes) {psbt id : String} {tx tx' : Transaction}
    (hdecode : decodeWith offline args wallet psbt = .ok tx)
    (hsign : offline.signTransaction wallet tx id = .ok tx') :
    decodeWith offline args wallet tx'.psbt = .ok tx' := by
  obtain ⟨subAmount, fee, feeRate, hsub, hfee, hrate, htx⟩ := decodeWith_eq_ok.mp hdecode
  exact decodeWith_eq_ok.mpr ⟨subAmount, fee, feeRate, hsub, hfee, hrate, h.signed htx hsign⟩

/-- The next call decodes the same transaction, from the text that was shown. -/
theorem decoded_shown {signers : List JSingleSigner}
    (hwallet : claimWallet offline (convert2CSigners lib signers) none = .ok wallet)
    {tx : Transaction} (htx : decodeWith offline args wallet tx.psbt = .ok tx)
    {shown : JTransaction} (hshown : shownTransaction lib tx 0 = some shown) :
    decoded offline (convert2CSigners lib signers) { args with psbt := shown.psbt } none =
      .ok (wallet, tx) := by
  have hagain : decodeWith offline { args with psbt := shown.psbt } wallet shown.psbt = .ok tx := by
    rw [(fields_shownTransaction hshown).1]
    exact htx
  unfold decoded
  rw [hwallet]
  show (decodeWith offline { args with psbt := shown.psbt } wallet shown.psbt >>= fun tx =>
    pure (wallet, tx)) = _
  rw [hagain]
  rfl

/-- From a transaction on, the loop of the claim and the calls of the app do the same. -/
theorem signEach_eq (hlib : lib.ConstructorsKeep) (hsigns : offline.Signs)
    (h : offline.Decodes) {signers : List JSingleSigner}
    (hwallet : claimWallet offline (convert2CSigners lib signers) none = .ok wallet)
    {tx : Transaction} (htx : decodeWith offline args wallet tx.psbt = .ok tx)
    {shown : JTransaction} (hshown : shownTransaction lib tx 0 = some shown)
    (rest : List JSingleSigner) :
    signEach lib offline signers args shown rest =
      shownOutcome lib (signedByAll offline wallet tx (convert2CSigners lib rest)) := by
  induction rest generalizing tx shown with
  | nil =>
    show (.ok (.object shown), {}) = shownOutcome lib (.ok tx)
    rw [shownOutcome, hshown]
  | cons signer rest ih =>
    unfold signEach signedByAll
    rw [javaResult_signSoftwarePsbt, decoded_shown hwallet htx hshown, convert2CSigners,
      List.map_cons, List.foldlM_cons, masterFingerprint_convert2CSigner hlib]
    show (match shownOutcome lib (offline.signTransaction wallet tx signer.masterFingerprint >>=
        fun signedTx => decodeWith offline args wallet signedTx.psbt) with
      | (.ok (.object next), _) => signEach lib offline signers args next rest
      | failed => failed) = _
    cases hsign : offline.signTransaction wallet tx signer.masterFingerprint with
    | error e => rfl
    | ok signedTx =>
      have hsigned := decodeWith_signed h htx hsign
      obtain ⟨next, hnext⟩ := exists_shownTransaction (hsigns.outputs hsign) hshown
      show (match shownOutcome lib (decodeWith offline args wallet signedTx.psbt) with
        | (.ok (.object next), _) => signEach lib offline signers args next rest
        | failed => failed) = _
      rw [hsigned, shownOutcome, hnext]
      exact ih hsigned hnext

/-- **One call or many.** A claim signed in one call is the claim that the app gets when it decodes
    the PSBT and has one signer after the other sign it: the same transaction, or the same
    exception from the same signer. -/
theorem claim_eq_signEach (hlib : lib.ConstructorsKeep) (hsigns : offline.Signs)
    (h : offline.Decodes) (signers : List JSingleSigner) (args : OfflineTxArgs) :
    javaResult (createInheritanceClaimTransaction lib offline signers args false none) =
      match javaResult (decodeTx lib offline signers args) with
      | (.ok (.object shown), _) => signEach lib offline signers args shown signers
      | failed => failed := by
  unfold javaResult
  rw [run_createInheritanceClaimTransaction, run_decodeTx]
  unfold claimResult
  rcases hdecoded : decoded offline (convert2CSigners lib signers) args none with e | ⟨wallet, tx⟩
  · rfl
  · obtain ⟨hwallet, htx⟩ := claimWallet_of_decoded hdecoded
    rw [← psbt_decodeWith h htx] at htx
    simp only [Except.map, shownOutcome]
    cases hshown : shownTransaction lib tx 0 with
    | none => rfl
    | some shown => exact (signEach_eq hlib hsigns h hwallet htx hshown signers).symm

theorem LibOffline.letters_decodes : LibOffline.letters.Decodes where
  psbt h := by rw [← Except.ok.inj h]
  signed {wallet psbt subAmount fee feeRate subtract tx id tx'} hdecode hsign := by
    obtain ⟨htx', c, hc⟩ := LibOffline.letters_sign hsign
    rw [htx', ← Except.ok.inj hdecode]
    simp [LibOffline.letters, hc, List.foldl_append]

/-- The two keys sign in one call, or in a call each. -/
theorem twoKeys_claim_eq_signEach :
    javaResult (createInheritanceClaimTransaction LibNunchuk.plain LibOffline.letters claimSigners
        claimArgs false none) =
      match javaResult (decodeTx LibNunchuk.plain LibOffline.letters claimSigners claimArgs) with
      | (.ok (.object shown), _) =>
        signEach LibNunchuk.plain LibOffline.letters claimSigners claimArgs shown claimSigners
      | failed => failed :=
  claim_eq_signEach LibNunchuk.plain_constructorsKeep LibOffline.letters_signs
    LibOffline.letters_decodes claimSigners claimArgs

end Chain

end NunchukSdk
