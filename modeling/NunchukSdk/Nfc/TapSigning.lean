import NunchukSdk.EntryPoints.OfflineSigning
import NunchukSdk.Foundation.EventRun
import NunchukSdk.Nfc.TapCards

/-!
# Signing a PSBT with Cards and Software Keys

The signers of a PSBT that no wallet has are of two kinds: `signSoftwarePsbt` signs with a key that
the phone holds, `signTapSignerPsbt` with a TAPSIGNER over NFC. The app hands each call the PSBT of
the transaction that it was shown last. A call that fails, as when a card leaves the field, shows
none, and the app goes on with the one it has.

## Model

- `SigningSession`, `signingStep`: the app and the cards. The native methods run over the transport.
- `TxSession`, `txStep`: the transaction itself, signed by libnunchuk or by a card

## Results

- `signTapSignerPsbt_run`: a card's signature, with what it leaves on the thread
- `signingSession_refines`: the texts, the thread and the exceptions in between change nothing
- `signingSession_signatures`: at any time the app has a transaction that was signed by the keys of
  the wallet whose calls succeeded, and by nobody else since it was first shown
-/

namespace NunchukSdk

open Foundation NativeM

/-! ## The signature of a card -/

/-- `Utils::SignPsbt` with a card, a CVC and a PSBT, beside the other calls. -/
structure LibTapPsbt (C T S : Type) extends LibTapCards C T S where
  signPsbt : T → NativeString → String → CardCall String

variable {κ C T S : Type}

/-- A card signs a PSBT. -/
def LibTapPsbt.signature (tap : LibTapPsbt C T S) (cvc : NativeString) (psbt : String) :
    CardCall String :=
  tap.createTapsigner.andThen fun ts => tap.signPsbt ts cvc psbt

section Method

variable (card : Card κ) (tagLost : Int) (tap : LibTapPsbt C T S) (lib : LibNunchuk)
  (offline : LibOffline) (cvc : JString) (signers : List JSingleSigner) (args : OfflineTxArgs)

/-- `LibNunchukAndroid_signTapSignerPsbt`. -/
def signTapSignerPsbt : CardM κ (JReturn JTransaction) :=
  cardMethod
    (do
      let wallet ← call (dummyWallet offline (convert2CSigners lib signers))
      let tx ← call (decodeWith offline args wallet args.psbt)
      let ts ← overCard card tagLost tap.createTapsigner
      let signedPsbt ← overCard card tagLost (tap.signPsbt ts (stringWrapper cvc) tx.psbt)
      let decodedTx ← call (decodeWith offline args wallet signedPsbt)
      let shown ← onSnd (convert2JTransaction lib decodedTx 0)
      pure (.object shown))
    .null .null

/-- The calls of the method, up to the transaction that is shown. -/
def tapSignedTx : CardCall Transaction :=
  (ofOutcome (decoded offline (convert2CSigners lib signers) args none)).andThen fun start =>
    (tap.signature (stringWrapper cvc) start.2.psbt).andThen fun signedPsbt =>
      ofOutcome (decodeWith offline args start.1 signedPsbt)

theorem signTapSignerPsbt_eq :
    signTapSignerPsbt card tagLost tap lib offline cvc signers args =
      cardMethod
        (do
          let tx ← overCard card tagLost (tapSignedTx tap lib offline cvc signers args)
          onSnd (do
            let shown ← convert2JTransaction lib tx 0
            pure (.object shown)))
        .null .null := by
  unfold tapSignedTx signTapSignerPsbt LibTapPsbt.signature decoded
  simp only [overCard_andThen, overCard_ofOutcome, call_bind, bind_assoc, onSnd_bind]
  rfl

/-- A transaction is shown, or a failure raised, as by a method without a card. -/
theorem run_methodOn_shown (outcome : Except CppException Transaction) :
    (methodOn outcome
      (fun tx => do
        let shown ← convert2JTransaction lib tx 0
        pure (.object shown)) .null .null).run {} = shownOutcome lib outcome := by
  cases outcome with
  | error e =>
    cases e with
    | base code what => rfl
    | std what => rfl
  | ok tx =>
    rw [shownOutcome]
    cases hshown : shownTransaction lib tx 0 with
    | none =>
      apply run_catching_undefined
      show (convert2JTransaction lib tx 0 >>= fun shown => pure (JReturn.object shown)).run {} = _
      rw [convert2JTransaction_eq, hshown]
      rfl
    | some shown =>
      apply run_catching_ok
      show (convert2JTransaction lib tx 0 >>= fun shown => pure (JReturn.object shown)).run {} = _
      rw [convert2JTransaction_eq, hshown]
      rfl

/-- **The method over the transport.** Java gets the transaction, or the one exception, that the
    calls come to on the card itself. -/
theorem signTapSignerPsbt_run (k : κ) (refs : Nat) :
    (signTapSignerPsbt card tagLost tap lib offline cvc signers args).run (⟨k, none, refs⟩, {}) =
      ((shownOutcome lib ((tapSignedTx tap lib offline cvc signers args).against
          (tagDevice card tagLost) k).1).1,
        (⟨((tapSignedTx tap lib offline cvc signers args).against (tagDevice card tagLost) k).2,
            none,
            refs + 2 * (tapSignedTx tap lib offline cvc signers args).failed
              (tagDevice card tagLost) k⟩,
          (shownOutcome lib ((tapSignedTx tap lib offline cvc signers args).against
            (tagDevice card tagLost) k).1).2)) := by
  rw [signTapSignerPsbt_eq, run_cardMethod, run_methodOn_shown]

end Method

/-! ## Sessions -/

variable {ι : Type}

/-- A signer takes its turn: a key that the phone holds, or a card with its CVC. -/
inductive SigningStep (ι : Type) where
  | software (masterSignerId : String)
  | tapSigner (card : ι) (cvc : JString)

/-- What the app was shown last, the cards, and what each call came to. -/
structure SigningSession (ι κ : Type) where
  shown : JTransaction
  cards : ι → κ
  results : List (JResult JTransaction)

/-- The transaction, the cards, and what each signature came to. -/
structure TxSession (ι κ : Type) where
  tx : Transaction
  cards : ι → κ
  outcomes : List (Except CppException Transaction)

/-- The app goes on with the transaction that it is returned, if it is. -/
def SigningSession.adopt (session : SigningSession ι κ) (result : JResult JTransaction)
    (cards : ι → κ) : SigningSession ι κ where
  shown :=
    match result.1 with
    | .ok (.object shown) => shown
    | _ => session.shown
  cards := cards
  results := session.results ++ [result]

/-- The transaction is the signed one, if there is one. -/
def TxSession.adopt (session : TxSession ι κ) (outcome : Except CppException Transaction)
    (cards : ι → κ) : TxSession ι κ where
  tx :=
    match outcome with
    | .ok tx => tx
    | .error _ => session.tx
  cards := cards
  outcomes := session.outcomes ++ [outcome]

section Steps

variable [DecidableEq ι] (cards : ι → Card κ) (tagLost : Int) (tap : LibTapPsbt C T S)
  (lib : LibNunchuk) (offline : LibOffline) (signers : List JSingleSigner) (args : OfflineTxArgs)

/-- What the call of a step comes to. Each method is entered on a thread without a pending
    exception, and with no local references of its own. -/
def signingResult (session : SigningSession ι κ) : SigningStep ι → JResult JTransaction × (ι → κ)
  | .software masterSignerId =>
    (javaResult (signSoftwarePsbt lib offline masterSignerId signers
      { args with psbt := session.shown.psbt }), session.cards)
  | .tapSigner card cvc =>
    match (signTapSignerPsbt (cards card) tagLost tap lib offline cvc signers
        { args with psbt := session.shown.psbt }).run (⟨session.cards card, none, 0⟩, {}) with
    | (returned, (thread, env)) =>
      ((returned, env), Function.update session.cards card thread.card)

/-- One step of the app. -/
def signingStep (session : SigningSession ι κ) (step : SigningStep ι) : SigningSession ι κ :=
  session.adopt
    (signingResult cards tagLost tap lib offline signers args session step).1
    (signingResult cards tagLost tap lib offline signers args session step).2

/-- What the signature of a step comes to. -/
def txResult (wallet : Wallet) (session : TxSession ι κ) :
    SigningStep ι → Except CppException Transaction × (ι → κ)
  | .software masterSignerId =>
    (offline.signTransaction wallet session.tx masterSignerId, session.cards)
  | .tapSigner card cvc =>
    match (tap.signature (stringWrapper cvc) session.tx.psbt).against
        (tagDevice (cards card) tagLost) (session.cards card) with
    | (outcome, k) =>
      (outcome.bind (decodeWith offline args wallet), Function.update session.cards card k)

/-- One step of the transaction. -/
def txStep (wallet : Wallet) (session : TxSession ι κ) (step : SigningStep ι) : TxSession ι κ :=
  session.adopt (txResult cards tagLost tap offline args wallet session step).1
    (txResult cards tagLost tap offline args wallet session step).2

/-- The steps whose calls returned a transaction. -/
def completed : SigningSession ι κ → List (SigningStep ι) → List (SigningStep ι)
  | _, [] => []
  | session, step :: rest =>
    match (signingResult cards tagLost tap lib offline signers args session step).1.1 with
    | .ok (.object _) =>
      step :: completed (signingStep cards tagLost tap lib offline signers args session step) rest
    | _ => completed (signingStep cards tagLost tap lib offline signers args session step) rest

end Steps

/-! ## What a signature does -/

/-- `signedTx` is `tx` with a signature of the key, if the key is one of the wallet: nobody's
    signature is lost, nobody else's is added, and the outputs stay. -/
structure SignedBy (wallet : Wallet) (tx : Transaction) (key : String) (signedTx : Transaction) :
    Prop where
  signed : wallet.HasKey key → signedTx.signers.lookup key = some true
  kept : ∀ {other}, tx.signers.lookup other = some true →
    signedTx.signers.lookup other = some true
  alone : ∀ {other}, signedTx.signers.lookup other = some true →
    tx.signers.lookup other = some true ∨ wallet.HasKey key ∧ key = other
  outputs : signedTx.outputs = tx.outputs

/-- Who has signed then. -/
theorem SignedBy.signers_iff {wallet : Wallet} {tx signedTx : Transaction} {key : String}
    (h : SignedBy wallet tx key signedTx) (other : String) :
    signedTx.signers.lookup other = some true ↔
      tx.signers.lookup other = some true ∨ wallet.HasKey key ∧ key = other := by
  constructor
  · exact h.alone
  · rintro (hbefore | ⟨hkey, rfl⟩)
    · exact h.kept hbefore
    · exact h.signed hkey

/-- libnunchuk signs with a software key. -/
structure LibOffline.SignsAlone (offline : LibOffline) : Prop where
  signed : ∀ {wallet tx masterSignerId signedTx},
    offline.signTransaction wallet tx masterSignerId = .ok signedTx →
    SignedBy wallet tx masterSignerId signedTx

/-- A card signs: the PSBT that is returned decodes, and has its signature. -/
structure CardsSign (cards : ι → Card κ) (tagLost : Int) (tap : LibTapPsbt C T S)
    (offline : LibOffline) (cardKey : ι → String) : Prop where
  signed : ∀ {card cvc k psbt signedPsbt wallet subAmount fee feeRate subtract tx},
    ((tap.signature cvc psbt).against (tagDevice (cards card) tagLost) k).1 = .ok signedPsbt →
    offline.decodeTx wallet psbt subAmount fee feeRate subtract = .ok tx →
    ∃ signedTx, offline.decodeTx wallet signedPsbt subAmount fee feeRate subtract = .ok signedTx ∧
      SignedBy wallet tx (cardKey card) signedTx

/-- Whose signature a step is for. -/
def SigningStep.key (cardKey : ι → String) : SigningStep ι → String
  | .software masterSignerId => masterSignerId
  | .tapSigner card _ => cardKey card

/-- The app has been shown the transaction, which is what its PSBT decodes into. -/
structure Shows (lib : LibNunchuk) (offline : LibOffline) (args : OfflineTxArgs) (wallet : Wallet)
    (session : SigningSession ι κ) (txs : TxSession ι κ) : Prop where
  shown : shownTransaction lib txs.tx 0 = some session.shown
  decodes : decodeWith offline args wallet txs.tx.psbt = .ok txs.tx
  cards : session.cards = txs.cards
  results : session.results = txs.outcomes.map (shownOutcome lib)
  /-- No call was undefined. -/
  returned : ∀ result ∈ session.results, ∃ returned, result.1 = .ok returned

theorem returned_adopt {session : SigningSession ι κ} {last : JResult JTransaction}
    {cards : ι → κ} (h : ∀ result ∈ session.results, ∃ returned, result.1 = .ok returned)
    (hlast : ∃ returned, last.1 = .ok returned) :
    ∀ result ∈ (session.adopt last cards).results, ∃ returned, result.1 = .ok returned := by
  intro result hresult
  rcases List.mem_append.mp hresult with hbefore | hnew
  · exact h result hbefore
  · rw [List.mem_singleton.mp hnew]
    exact hlast

section Refinement

variable [DecidableEq ι] {cards : ι → Card κ} {tagLost : Int} {tap : LibTapPsbt C T S}
  {lib : LibNunchuk} {offline : LibOffline} {signers : List JSingleSigner} {args : OfflineTxArgs}
  {cardKey : ι → String} {wallet : Wallet}

omit [DecidableEq ι] in
theorem CardsSign.decodeWith (h : CardsSign cards tagLost tap offline cardKey) {card : ι}
    {cvc : NativeString} {k : κ} {psbt signedPsbt : String} {tx : Transaction}
    (hsigned : ((tap.signature cvc psbt).against (tagDevice (cards card) tagLost) k).1 =
      .ok signedPsbt)
    (htx : decodeWith offline args wallet psbt = .ok tx) :
    ∃ signedTx, decodeWith offline args wallet signedPsbt = .ok signedTx ∧
      SignedBy wallet tx (cardKey card) signedTx := by
  obtain ⟨subAmount, fee, feeRate, hsub, hfee, hrate, hdecode⟩ := decodeWith_eq_ok.mp htx
  obtain ⟨signedTx, hsignedTx, hby⟩ := h.signed hsigned hdecode
  exact ⟨signedTx, decodeWith_eq_ok.mpr ⟨subAmount, fee, feeRate, hsub, hfee, hrate, hsignedTx⟩,
    hby⟩

/-- What the calls of a card's method come to once the transaction is known. -/
theorem against_tapSignedTx {start : OfflineTxArgs} {tx : Transaction} (cvc : JString)
    (hdecoded : decoded offline (convert2CSigners lib signers) start none = .ok (wallet, tx))
    (device : Device κ Bytes Bytes CppException) (k : κ) :
    (tapSignedTx tap lib offline cvc signers start).against device k =
      ((((tap.signature (stringWrapper cvc) tx.psbt).against device k).1.bind
          (decodeWith offline start wallet)),
        ((tap.signature (stringWrapper cvc) tx.psbt).against device k).2) := by
  unfold tapSignedTx
  rw [hdecoded]
  show ((tap.signature (stringWrapper cvc) tx.psbt).andThen fun signedPsbt =>
    ofOutcome (decodeWith offline start wallet signedPsbt)).against device k = _
  rw [Program.against_andThen]
  rcases (tap.signature (stringWrapper cvc) tx.psbt).against device k with ⟨outcome, k'⟩
  cases outcome with
  | error e => rfl
  | ok signedPsbt =>
    show (ofOutcome (decodeWith offline start wallet signedPsbt)).against device k' =
      (decodeWith offline start wallet signedPsbt, k')
    cases decodeWith offline start wallet signedPsbt with
    | error e => rfl
    | ok signedTx => rfl

/-- A signature that is made is a transaction that its PSBT decodes into. -/
theorem signedBy_of_txResult (hsoftware : offline.SignsAlone) (hdecodes : offline.Decodes)
    (hcards : CardsSign cards tagLost tap offline cardKey) {txs : TxSession ι κ}
    (htx : decodeWith offline args wallet txs.tx.psbt = .ok txs.tx) (step : SigningStep ι)
    {signedTx : Transaction}
    (h : (txResult cards tagLost tap offline args wallet txs step).1 = .ok signedTx) :
    SignedBy wallet txs.tx (step.key cardKey) signedTx ∧
      decodeWith offline args wallet signedTx.psbt = .ok signedTx := by
  cases step with
  | software masterSignerId => exact ⟨hsoftware.signed h, decodeWith_signed hdecodes htx h⟩
  | tapSigner card cvc =>
    unfold txResult at h
    dsimp only at h
    obtain ⟨signedPsbt, hsigned, hdecode⟩ := bind_eq_ok.mp h
    obtain ⟨signedTx', hsignedTx, hby⟩ := hcards.decodeWith hsigned htx
    rw [hdecode] at hsignedTx
    cases hsignedTx
    refine ⟨hby, ?_⟩
    -- its PSBT is the one that the card has returned
    rw [psbt_decodeWith hdecodes hdecode]
    exact hdecode

/-- The call of a step shows what its signature comes to. -/
theorem signingResult_eq (hdecodes : offline.Decodes)
    (hwallet : dummyWallet offline (convert2CSigners lib signers) = .ok wallet)
    {session : SigningSession ι κ} {txs : TxSession ι κ}
    (h : Shows lib offline args wallet session txs) (step : SigningStep ι) :
    signingResult cards tagLost tap lib offline signers args session step =
      (shownOutcome lib (txResult cards tagLost tap offline args wallet txs step).1,
        (txResult cards tagLost tap offline args wallet txs step).2) := by
  have hdecoded : decoded offline (convert2CSigners lib signers)
      { args with psbt := session.shown.psbt } none = .ok (wallet, txs.tx) :=
    decoded_shown hwallet h.decodes h.shown
  cases step with
  | software masterSignerId =>
    unfold signingResult txResult
    dsimp only
    rw [javaResult_signSoftwarePsbt, hdecoded, h.cards]
    congr 2
    show (offline.signTransaction wallet txs.tx masterSignerId >>= fun signedTx =>
      decodeWith offline args wallet signedTx.psbt) = _
    cases hsign : offline.signTransaction wallet txs.tx masterSignerId with
    | error e => rfl
    | ok signedTx => exact decodeWith_signed hdecodes h.decodes hsign
  | tapSigner card cvc =>
    unfold signingResult txResult
    dsimp only
    rw [signTapSignerPsbt_run, against_tapSignedTx cvc hdecoded, h.cards]
    rfl

/-- **Step lemma.** The app goes on with the transaction that was signed. -/
theorem shows_step (hsoftware : offline.SignsAlone) (hdecodes : offline.Decodes)
    (hcards : CardsSign cards tagLost tap offline cardKey)
    (hwallet : dummyWallet offline (convert2CSigners lib signers) = .ok wallet)
    {session : SigningSession ι κ} {txs : TxSession ι κ}
    (h : Shows lib offline args wallet session txs) (step : SigningStep ι) :
    Shows lib offline args wallet
      (signingStep cards tagLost tap lib offline signers args session step)
      (txStep cards tagLost tap offline args wallet txs step) := by
  unfold signingStep txStep
  rw [signingResult_eq hdecodes hwallet h step]
  have hsigned : ∀ signedTx,
      (txResult cards tagLost tap offline args wallet txs step).1 = .ok signedTx →
      SignedBy wallet txs.tx (step.key cardKey) signedTx ∧
        decodeWith offline args wallet signedTx.psbt = .ok signedTx :=
    fun _ => signedBy_of_txResult hsoftware hdecodes hcards h.decodes step
  generalize txResult cards tagLost tap offline args wallet txs step = made at hsigned ⊢
  rcases made with ⟨e | signedTx, cards'⟩
  · refine ⟨h.shown, h.decodes, rfl, ?_, ?_⟩
    · show session.results ++ _ = (txs.outcomes ++ _).map _
      rw [h.results, List.map_append]
      rfl
    · exact returned_adopt h.returned ⟨.null, rfl⟩
  · obtain ⟨hby, hdecode⟩ := hsigned signedTx rfl
    obtain ⟨shown, hshown⟩ := exists_shownTransaction hby.outputs h.shown
    have hresult : shownOutcome lib (.ok signedTx) = (.ok (.object shown), {}) := by
      rw [shownOutcome, hshown]
    refine ⟨?_, hdecode, rfl, ?_, ?_⟩
    · simp only [SigningSession.adopt, TxSession.adopt, hresult, hshown]
    · show session.results ++ _ = (txs.outcomes ++ _).map _
      rw [h.results, List.map_append]
      rfl
    · apply returned_adopt h.returned
      exact ⟨.object shown, congrArg Prod.fst hresult⟩

theorem shows_run (hsoftware : offline.SignsAlone) (hdecodes : offline.Decodes)
    (hcards : CardsSign cards tagLost tap offline cardKey)
    (hwallet : dummyWallet offline (convert2CSigners lib signers) = .ok wallet)
    {session : SigningSession ι κ} {txs : TxSession ι κ}
    (h : Shows lib offline args wallet session txs) (steps : List (SigningStep ι)) :
    Shows lib offline args wallet
      (runFrom (signingStep cards tagLost tap lib offline signers args) session steps)
      (runFrom (txStep cards tagLost tap offline args wallet) txs steps) := by
  apply List.foldl_rel h
  exact fun step _ _ _ h => shows_step hsoftware hdecodes hcards hwallet h step

omit [DecidableEq ι] in
/-- The transaction that `decodeTx` shows is the start of a session. -/
theorem shows_decodeTx (hdecodes : offline.Decodes) {shown : JTransaction} {env : JavaEnv}
    (h : javaResult (decodeTx lib offline signers args) = (.ok (.object shown), env))
    (held : ι → κ) :
    ∃ wallet tx, dummyWallet offline (convert2CSigners lib signers) = .ok wallet ∧
      Shows lib offline args wallet ⟨shown, held, []⟩ ⟨tx, held, []⟩ := by
  unfold javaResult at h
  rw [run_decodeTx] at h
  rcases hdecoded : decoded offline (convert2CSigners lib signers) args none with e | ⟨wallet, tx⟩
  · rw [hdecoded] at h
    cases h
  · obtain ⟨hwallet, htx⟩ := claimWallet_of_decoded hdecoded
    rw [hdecoded] at h
    simp only [Except.map, shownOutcome] at h
    cases hshown : shownTransaction lib tx 0 with
    | none =>
      rw [hshown] at h
      cases h
    | some shown' =>
      rw [hshown] at h
      cases h
      refine ⟨wallet, tx, hwallet, hshown, ?_, rfl, rfl, List.forall_mem_nil _⟩
      rw [psbt_decodeWith hdecodes htx]
      exact htx

/-- **The session is one of transactions.** In every run of software keys and cards, in any order,
    the calls return, what each of them returns or raises is what the signature comes to on the
    transaction and the card themselves, and the app goes on with the transaction that was signed
    last. -/
theorem signingSession_refines (hsoftware : offline.SignsAlone) (hdecodes : offline.Decodes)
    (hcards : CardsSign cards tagLost tap offline cardKey) {shown : JTransaction} {env : JavaEnv}
    (hstart : javaResult (decodeTx lib offline signers args) = (.ok (.object shown), env))
    (held : ι → κ) :
    ∃ wallet tx, dummyWallet offline (convert2CSigners lib signers) = .ok wallet ∧
      shownTransaction lib tx 0 = some shown ∧
      ∀ steps, Shows lib offline args wallet
        (runFrom (signingStep cards tagLost tap lib offline signers args) ⟨shown, held, []⟩ steps)
        (runFrom (txStep cards tagLost tap offline args wallet) ⟨tx, held, []⟩ steps) := by
  obtain ⟨wallet, tx, hwallet, hshows⟩ := shows_decodeTx hdecodes hstart held
  exact ⟨wallet, tx, hwallet, hshows.shown, shows_run hsoftware hdecodes hcards hwallet hshows⟩

/-! ## The signatures of a session -/

/-- A step is completed when its signature was made. -/
theorem completed_cons (hsoftware : offline.SignsAlone) (hdecodes : offline.Decodes)
    (hcards : CardsSign cards tagLost tap offline cardKey)
    (hwallet : dummyWallet offline (convert2CSigners lib signers) = .ok wallet)
    {session : SigningSession ι κ} {txs : TxSession ι κ}
    (h : Shows lib offline args wallet session txs) (step : SigningStep ι)
    (rest : List (SigningStep ι)) :
    completed cards tagLost tap lib offline signers args session (step :: rest) =
      match (txResult cards tagLost tap offline args wallet txs step).1 with
      | .ok _ => step :: completed cards tagLost tap lib offline signers args
          (signingStep cards tagLost tap lib offline signers args session step) rest
      | .error _ => completed cards tagLost tap lib offline signers args
          (signingStep cards tagLost tap lib offline signers args session step) rest := by
  rw [completed, signingResult_eq hdecodes hwallet h step]
  cases hmade : (txResult cards tagLost tap offline args wallet txs step).1 with
  | error e => rfl
  | ok signedTx =>
    obtain ⟨hby, -⟩ := signedBy_of_txResult hsoftware hdecodes hcards h.decodes step hmade
    obtain ⟨shown, hshown⟩ := exists_shownTransaction hby.outputs h.shown
    simp only [shownOutcome, hshown]

/-- What a run makes of the signatures of a transaction. -/
theorem signatures_run (hsoftware : offline.SignsAlone) (hdecodes : offline.Decodes)
    (hcards : CardsSign cards tagLost tap offline cardKey)
    (hwallet : dummyWallet offline (convert2CSigners lib signers) = .ok wallet)
    {session : SigningSession ι κ} {txs : TxSession ι κ}
    (h : Shows lib offline args wallet session txs) (steps : List (SigningStep ι)) (key : String) :
    (runFrom (txStep cards tagLost tap offline args wallet) txs steps).tx.signers.lookup key =
        some true ↔
      txs.tx.signers.lookup key = some true ∨
        wallet.HasKey key ∧
          ∃ step ∈ completed cards tagLost tap lib offline signers args session steps,
            step.key cardKey = key := by
  induction steps generalizing session txs with
  | nil => simp [completed, runFrom]
  | cons step rest ih =>
    have hrest := ih (shows_step hsoftware hdecodes hcards hwallet h step)
    rw [completed_cons hsoftware hdecodes hcards hwallet h step rest]
    cases hmade : (txResult cards tagLost tap offline args wallet txs step).1 with
    | error e =>
      -- the transaction stays
      have hstays : (txStep cards tagLost tap offline args wallet txs step).tx = txs.tx := by
        simp only [txStep, TxSession.adopt, hmade]
      rw [hstays] at hrest
      exact hrest
    | ok signedTx =>
      obtain ⟨hby, -⟩ := signedBy_of_txResult hsoftware hdecodes hcards h.decodes step hmade
      have hnext : (txStep cards tagLost tap offline args wallet txs step).tx = signedTx := by
        simp only [txStep, TxSession.adopt, hmade]
      rw [hnext, hby.signers_iff] at hrest
      refine hrest.trans ?_
      rw [List.exists_mem_cons_iff, or_assoc]
      apply or_congr_right
      -- the key of this step, or of a later one
      constructor
      · rintro (⟨hkey, rfl⟩ | ⟨hkey, hlater⟩)
        · exact ⟨hkey, Or.inl rfl⟩
        · exact ⟨hkey, Or.inr hlater⟩
      · rintro ⟨hkey, rfl | hlater⟩
        · exact Or.inl ⟨hkey, rfl⟩
        · exact Or.inr ⟨hkey, hlater⟩

/-- A transaction with one more key among those that have signed. -/
theorem signedBy_addSigned {wallet : Wallet} {tx signedTx : Transaction} {key : String}
    (hsigners : signedTx.signers = wallet.addSigned tx.signers key)
    (houtputs : signedTx.outputs = tx.outputs) : SignedBy wallet tx key signedTx where
  signed hkey := by
    rw [hsigners]
    exact (wallet.lookup_addSigned tx.signers key key).mpr (Or.inr ⟨hkey, rfl⟩)
  kept {other} h := by
    rw [hsigners]
    exact (wallet.lookup_addSigned tx.signers key other).mpr (Or.inl h)
  alone {other} h := by
    rw [hsigners] at h
    exact (wallet.lookup_addSigned tx.signers key other).mp h
  outputs := houtputs

theorem LibOffline.letters_signsAlone : LibOffline.letters.SignsAlone where
  signed h := by
    rw [(LibOffline.letters_sign h).1]
    exact signedBy_addSigned rfl rfl

/-- A card that signs adds the letter that it answers with to the PSBT. -/
def LibTapPsbt.letters : LibTapPsbt Unit Unit Unit where
  toLibTapCards := LibTapCards.refusing
  signPsbt _ _ psbt := command [0, 203] fun
    | [c] => .ok (psbt ++ String.singleton (Char.ofNat c.toNat))
    | _ => .error (.base (-1) "bad answer")

/-- A card of the key `"b"`, that is moved away when it has answered so many commands, and comes
    back for two more. -/
def restlessCard : Card Nat
  | 0, _ => (.error "android.nfc.TagLostException: Tag was lost.", 2)
  | n + 1, [0, 203] => (.ok [98], n)
  | n + 1, _ => (.ok [144, 0], n)

theorem restlessCard_signs :
    CardsSign (fun _ : Unit => restlessCard) (-6100) LibTapPsbt.letters LibOffline.letters
      fun _ => "b" where
  signed {_ cvc k psbt signedPsbt wallet subAmount fee feeRate subtract tx} hsigned htx := by
    -- the PSBT is returned when both commands were answered
    have hpsbt : signedPsbt = psbt ++ String.singleton 'b' := by
      match k, hsigned with
      | 0, hsigned => cases hsigned
      | 1, hsigned => cases hsigned
      | n + 2, hsigned => exact (Except.ok.inj hsigned).symm
    refine ⟨_, rfl, ?_⟩
    rw [← Except.ok.inj htx, hpsbt]
    apply signedBy_addSigned
    · show List.foldl _ _ (psbt ++ String.singleton 'b').toList = _
      rw [String.toList_append, List.foldl_append]
      rfl
    · rfl

/-- The sessions of two keys, with a card that is lost now and then. -/
theorem restlessCard_session :
    ∃ shown env wallet tx,
      javaResult (decodeTx LibNunchuk.plain LibOffline.letters claimSigners claimArgs) =
        (.ok (.object shown), env) ∧
      ∀ steps, Shows LibNunchuk.plain LibOffline.letters claimArgs wallet
        (runFrom (signingStep (fun _ : Unit => restlessCard) (-6100) LibTapPsbt.letters
          LibNunchuk.plain LibOffline.letters claimSigners claimArgs) ⟨shown, fun _ => 1, []⟩ steps)
        (runFrom (txStep (fun _ : Unit => restlessCard) (-6100) LibTapPsbt.letters
          LibOffline.letters claimArgs wallet) ⟨tx, fun _ => 1, []⟩ steps) := by
  obtain ⟨shown, env, hstart⟩ : ∃ shown env,
      javaResult (decodeTx LibNunchuk.plain LibOffline.letters claimSigners claimArgs) =
        (.ok (.object shown), env) := ⟨_, _, rfl⟩
  obtain ⟨wallet, tx, -, -, hshows⟩ :=
    signingSession_refines LibOffline.letters_signsAlone LibOffline.letters_decodes
      restlessCard_signs hstart fun _ => 1
  exact ⟨shown, env, wallet, tx, hstart, hshows⟩

/-- **The signatures of a session.** In every run, every call returns, and the transaction that the
    app has is signed by those who had signed it at first and by each key of the wallet whose call
    returned a transaction, and by nobody else; so a call that failed took no signature back. -/
theorem signingSession_signatures (hsoftware : offline.SignsAlone) (hdecodes : offline.Decodes)
    (hcards : CardsSign cards tagLost tap offline cardKey) {shown : JTransaction} {env : JavaEnv}
    (hstart : javaResult (decodeTx lib offline signers args) = (.ok (.object shown), env))
    (held : ι → κ) (steps : List (SigningStep ι)) :
    (∀ result ∈ (runFrom (signingStep cards tagLost tap lib offline signers args)
        ⟨shown, held, []⟩ steps).results, ∃ returned, result.1 = .ok returned) ∧
    ∃ wallet, dummyWallet offline (convert2CSigners lib signers) = .ok wallet ∧
      ∀ key, (runFrom (signingStep cards tagLost tap lib offline signers args)
          ⟨shown, held, []⟩ steps).shown.signers.lookup key = some true ↔
        shown.signers.lookup key = some true ∨
          wallet.HasKey key ∧
            ∃ step ∈ completed cards tagLost tap lib offline signers args ⟨shown, held, []⟩ steps,
              step.key cardKey = key := by
  obtain ⟨wallet, tx, hwallet, hshows⟩ := shows_decodeTx hdecodes hstart held
  have hfinal := shows_run hsoftware hdecodes hcards hwallet hshows steps
  refine ⟨hfinal.returned, wallet, hwallet, ?_⟩
  intro key
  -- Kotlin sees the signers of the transaction
  have hfirst : shown.signers = convert2JStringBooleanMap tx.signers :=
    (fields_shownTransaction hshows.shown).2
  rw [(fields_shownTransaction hfinal.shown).2, hfirst, lookup_convert2JStringBooleanMap_iff,
    lookup_convert2JStringBooleanMap_iff]
  exact signatures_run hsoftware hdecodes hcards hwallet hshows steps key

/-- A card that is lost once signs at the second attempt, and a key that is none of the wallet does
    not sign. -/
theorem restlessCard_both_signed :
    ∃ shown env,
      javaResult (decodeTx LibNunchuk.plain LibOffline.letters claimSigners claimArgs) =
        (.ok (.object shown), env) ∧
      ∀ key,
        (runFrom (signingStep (fun _ : Unit => restlessCard) (-6100) LibTapPsbt.letters
            LibNunchuk.plain LibOffline.letters claimSigners claimArgs)
          ⟨shown, fun _ => 1, []⟩
          [.software "a", .tapSigner () [], .software "c",
            .tapSigner () []]).shown.signers.lookup key = some true ↔ key = "a" ∨ key = "b" := by
  obtain ⟨shown, env, hstart, hnobody⟩ : ∃ shown env,
      javaResult (decodeTx LibNunchuk.plain LibOffline.letters claimSigners claimArgs) =
          (.ok (.object shown), env) ∧
        ∀ key, shown.signers.lookup key ≠ some true := by
    refine ⟨_, _, rfl, ?_⟩
    intro key hkey
    exact nomatch (lookup_convert2JStringBooleanMap_iff ∅ key true).mp hkey
  refine ⟨shown, env, hstart, ?_⟩
  obtain ⟨-, wallet, hwallet, hsigned⟩ :=
    signingSession_signatures LibOffline.letters_signsAlone LibOffline.letters_decodes
      restlessCard_signs hstart (fun _ => 1)
      [.software "a", .tapSigner () [], .software "c", .tapSigner () []]
  -- the second call is the one that fails
  have hcompleted : completed (fun _ : Unit => restlessCard) (-6100) LibTapPsbt.letters
      LibNunchuk.plain LibOffline.letters claimSigners claimArgs ⟨shown, fun _ => 1, []⟩
      [.software "a", .tapSigner () [], .software "c", .tapSigner () []] =
      [.software "a", .software "c", .tapSigner () []] := by
    cases hstart
    rfl
  -- the wallet was made of both keys
  have hkeys : ∀ key, wallet.HasKey key ↔ key = "a" ∨ key = "b" := by
    cases hwallet
    intro key
    show (∃ signer ∈ convert2CSigners LibNunchuk.plain claimSigners,
      signer.masterFingerprint = key) ↔ _
    simp only [convert2CSigners, claimSigners, List.map_cons, List.map_nil,
      List.exists_mem_cons_iff, List.not_mem_nil, false_and, exists_false, or_false,
      masterFingerprint_convert2CSigner LibNunchuk.plain_constructorsKeep, eq_comm]
  intro key
  rw [hsigned key, hcompleted, hkeys key]
  simp only [hnobody key, false_or, List.exists_mem_cons_iff, List.not_mem_nil, false_and,
    exists_false, or_false, SigningStep.key]
  constructor
  · exact And.left
  · rintro (rfl | rfl)
    · exact ⟨Or.inl rfl, Or.inl rfl⟩
    · exact ⟨Or.inr rfl, Or.inr (Or.inr rfl)⟩

end Refinement

end NunchukSdk
