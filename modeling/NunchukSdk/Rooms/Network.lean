import Mathlib.Logic.Function.Basic
import NunchukSdk.Foundation.EventRun
import NunchukSdk.Rooms.Methods

/-!
# Phones in Shared Rooms

The members of a shared wallet talk to each other through the rooms. A phone's library hands an
event to its app, which sends it; the apps of the others hand it to their libraries. Backups take
the same way: a file that one library hands out to be uploaded is given back to a library that
asks for it, often on another phone.

## Model

- `RoomPhone`, `phoneStep`: phones, whose methods and callbacks go through JNI to any executors.
  What these are asked for is noted.
- `RoomNode`, `nodeStep`: the libraries alone, which are handed the requests of one another
- What is sent may arrive late, in another order, more than once or not at all: a step delivers any
  event that was ever sent. The server adds an id, the sender and the time.
- A library may also work on a thread of its own, as for an automatic backup.

## Results

- `rooms_refine`: in every run where no executor throws, the libraries on the phones do what the
  libraries do alone, and the apps are asked for exactly what the libraries ask for
-/

namespace NunchukSdk

open Foundation NativeM

/-! ## Phones and nodes -/

variable {ι ν σ θ : Type}

/-- Executors with the calls that they get. -/
def noting (executors : Executors σ θ) : Executors (σ × List ExecutorCall) θ := fun s c =>
  ((executors s.1 c).1, ((executors s.1 c).2, s.2 ++ [c]))

/-- No executor throws. -/
def NeverThrow (executors : Executors σ θ) : Prop := ∀ app c, (executors app c).1 = .ok ()

/-- A phone: its library, its app, what its executors were asked for, and what Java got from the
    methods. -/
structure RoomPhone (σ ν : Type) where
  nuMatrix : ν
  app : σ
  heard : List ExecutorCall
  results : List (JResult JRoomValue)

/-- A library, what it has asked for, and what its methods came to. -/
structure RoomNode (ν : Type) where
  nuMatrix : ν
  asked : List MatrixRequest
  answers : List (Option RoomAnswer)

/-- A native method is called. -/
def RoomPhone.perform (vm : VmAnswers) (executors : Executors σ θ) (phone : RoomPhone σ ν)
    (method : RoomMethod ν) : RoomPhone σ ν :=
  match (method.run vm (noting executors)).run
      ((⟨(phone.app, phone.heard), javaThread, none, []⟩, phone.nuMatrix), {}) with
  | (returned, ((thread, next), env)) =>
    ⟨next, thread.app.1, thread.app.2, phone.results ++ [(returned, env)]⟩

/-- The library works on a thread of its own. -/
def RoomPhone.work (vm : VmAnswers) (executors : Executors σ θ) (phone : RoomPhone σ ν)
    (ownWork : ν → MatrixCall ν Unit) : RoomPhone σ ν :=
  match ((ownWork phone.nuMatrix).runOver (ownCallback (fun _ => vm) (noting executors))).run
      (⟨(phone.app, phone.heard), libraryThread, none, []⟩, 0) with
  | (.ok (_, next), (thread, _)) => ⟨next, thread.app.1, thread.app.2, phone.results⟩
  | (.error _, (thread, _)) => ⟨phone.nuMatrix, thread.app.1, thread.app.2, phone.results⟩

/-- A method comes to what is told. -/
def RoomNode.perform (node : RoomNode ν) (method : RoomMethod ν) : RoomNode ν where
  nuMatrix := (method.told node.nuMatrix).next
  asked := node.asked ++ (method.told node.nuMatrix).requests
  answers := node.answers ++ [(method.told node.nuMatrix).ended.answer]

/-- The library works by itself. -/
def RoomNode.work (node : RoomNode ν) (ownWork : ν → MatrixCall ν Unit) : RoomNode ν where
  nuMatrix :=
    callNext node.nuMatrix ((ownWork node.nuMatrix).ending MatrixRequest.reply)
  asked := node.asked ++ (ownWork node.nuMatrix).asked MatrixRequest.reply
  answers := node.answers

/-! ## Steps -/

/-- What the server adds to an event. -/
structure EventStamp where
  eventId : JString
  sender : JString
  time : Int

/-- What happens next. `n` and `m` are places in what a phone was asked for. -/
inductive RoomStep (ι ν : Type) : Type 1 where
  /-- The app calls a method. -/
  | call (phone : ι) (method : RoomMethod ν)
  /-- An event that `sender` has sent is consumed. -/
  | deliver (phone sender : ι) (n : Nat) (stamp : EventStamp)
  /-- The same for an event of the backup. -/
  | deliverSync (phone sender : ι) (n : Nat) (stamp : EventStamp)
  /-- A file was uploaded and has a URL. -/
  | uploaded (phone : ι) (n : Nat) (url : JString)
  /-- The file that `owner` has uploaded is there for the download `m`. -/
  | downloaded (phone : ι) (m : Nat) (owner : ι) (n : Nat)
  /-- The library works on a thread of its own. -/
  | own (phone : ι)

section Steps

variable (matrix : LibMatrix ν) (ownWork : ν → MatrixCall ν Unit) (vm : VmAnswers)
  (executors : Executors σ θ)

/-- The method that the app calls in a step, made from what the executors were asked for. -/
def RoomStep.method (phones : ι → RoomPhone σ ν) : RoomStep ι ν → Option (ι × RoomMethod ν)
  | .call phone method => some (phone, method)
  | .deliver phone sender n stamp =>
    match (phones sender).heard[n]? with
    -- the app passes on what it was asked to send
    | some (.sendEvent roomId type content _) =>
      some (phone, consumeEvent matrix
        ⟨type, content, stamp.eventId, roomId, stamp.sender, stamp.time⟩)
    | _ => none
  | .deliverSync phone sender n stamp =>
    match (phones sender).heard[n]? with
    | some (.sendEvent roomId type content _) =>
      some (phone, consumeSyncEvent matrix
        ⟨type, content, stamp.eventId, roomId, stamp.sender, stamp.time⟩)
    | _ => none
  | .uploaded phone n url =>
    match (phones phone).heard[n]? with
    | some (.uploadFileEvent _ _ fileJsonInfo _ _) =>
      some (phone, uploadFileCallback matrix fileJsonInfo url)
    | _ => none
  | .downloaded phone m owner n =>
    match (phones phone).heard[m]?, (phones owner).heard[n]? with
    -- the bytes are those of the array, not of the file in the library that made it
    | some (.downloadFileEvent _ _ fileJsonInfo _), some (.uploadFileEvent _ _ _ data _) =>
      some (phone, downloadFileCallback matrix fileJsonInfo data)
    | _, _ => none
  | .own _ => none

/-- The library call of a step, made from what the libraries have asked for. -/
def RoomStep.libraryMethod (nodes : ι → RoomNode ν) : RoomStep ι ν → Option (ι × RoomMethod ν)
  | .call phone method => some (phone, method)
  | .deliver phone sender n stamp =>
    match (nodes sender).asked[n]? with
    | some (.sendEvent roomId type content _) =>
      some (phone, .void (matrix.consumeEvent ⟨type, content, stringWrapper stamp.eventId, roomId,
        stringWrapper stamp.sender, stamp.time⟩))
    | _ => none
  | .deliverSync phone sender n stamp =>
    match (nodes sender).asked[n]? with
    | some (.sendEvent roomId type content _) =>
      some (phone, .sync (matrix.consumeSyncEvent ⟨type, content, stringWrapper stamp.eventId,
        roomId, stringWrapper stamp.sender, stamp.time⟩))
    | _ => none
  | .uploaded phone n url =>
    match (nodes phone).asked[n]? with
    | some (.uploadFile _ _ fileJsonInfo _) =>
      some (phone, .sync (matrix.uploadFileCallback fileJsonInfo (stringWrapper url)))
    | _ => none
  | .downloaded phone m owner n =>
    match (nodes phone).asked[m]?, (nodes owner).asked[n]? with
    | some (.downloadFile _ _ jsonInfo _), some (.uploadFile _ _ _ data) =>
      some (phone, .sync (matrix.downloadFileCallback jsonInfo data))
    | _, _ => none
  | .own _ => none

variable [DecidableEq ι]

/-- A step of the phones. -/
def phoneStep (phones : ι → RoomPhone σ ν) (step : RoomStep ι ν) : ι → RoomPhone σ ν :=
  match step, step.method matrix phones with
  | .own phone, _ => Function.update phones phone ((phones phone).work vm executors ownWork)
  | _, some (phone, method) =>
    Function.update phones phone ((phones phone).perform vm executors method)
  | _, none => phones

/-- A step of the libraries. -/
def nodeStep (nodes : ι → RoomNode ν) (step : RoomStep ι ν) : ι → RoomNode ν :=
  match step, step.libraryMethod matrix nodes with
  | .own phone, _ => Function.update nodes phone ((nodes phone).work ownWork)
  | _, some (phone, method) => Function.update nodes phone ((nodes phone).perform method)
  | _, none => nodes

end Steps

/-! ## Requests of texts -/

/-- The texts of a request are texts, and its file fits in a Java array. -/
def MatrixRequest.OfTexts : MatrixRequest → Prop
  | .sendEvent roomId type content _ => IsText roomId ∧ IsText type ∧ IsText content
  | .uploadFile fileName mineType fileJsonInfo data =>
    IsText fileName ∧ IsText mineType ∧ IsText fileJsonInfo ∧ data.length < 2 ^ 31
  | .downloadFile fileName mineType jsonInfo mxcUri =>
    IsText fileName ∧ IsText mineType ∧ IsText jsonInfo ∧ IsText mxcUri
  | .progress _ => True

/-- In this step the library asks for nothing but texts, and its result can be shown. -/
def RoomStep.OfTexts (matrix : LibMatrix ν) (ownWork : ν → MatrixCall ν Unit)
    (nodes : ι → RoomNode ν) (step : RoomStep ι ν) : Prop :=
  match step, step.libraryMethod matrix nodes with
  | .own phone, _ =>
    ∀ request ∈ (ownWork (nodes phone).nuMatrix).asked MatrixRequest.reply, request.OfTexts
  | _, some (phone, method) =>
    (∀ request ∈ (method.told (nodes phone).nuMatrix).requests, request.OfTexts) ∧
      (method.told (nodes phone).nuMatrix).ended.answer ≠ none
  | _, none => True

/-- A file that fits becomes an array of its bytes. -/
theorem newFilledArray_eq {data : List UInt8} (h : data.length < 2 ^ 31) :
    newFilledArray data = some (convert2JByteArray data) := by
  unfold newFilledArray
  rw [toInt_castToJint h]
  simp

/-- A request of texts, and the call that it becomes. -/
inductive ShownAs : MatrixRequest → ExecutorCall → Prop where
  | sendEvent (roomId type content : JString) (ignoreError : Bool) :
      ShownAs
        (.sendEvent (stringWrapper roomId) (stringWrapper type) (stringWrapper content) ignoreError)
        (.sendEvent roomId type content ignoreError)
  | uploadFile (fileName mineType fileJsonInfo : JString) (data : List UInt8)
      (fits : data.length < 2 ^ 31) :
      ShownAs
        (.uploadFile (stringWrapper fileName) (stringWrapper mineType)
          (stringWrapper fileJsonInfo) data)
        (.uploadFileEvent fileName mineType fileJsonInfo (convert2JByteArray data) data.length)
  | downloadFile (fileName mineType jsonInfo mxcUri : JString) :
      ShownAs
        (.downloadFile (stringWrapper fileName) (stringWrapper mineType) (stringWrapper jsonInfo)
          (stringWrapper mxcUri))
        (.downloadFileEvent fileName mineType jsonInfo mxcUri)
  | progress (percent : Int) :
      ShownAs (.progress percent) (.syncFileEvent (percent == 100) percent)

theorem ShownAs.shown {request : MatrixRequest} {c : ExecutorCall} (h : ShownAs request c) :
    request.shown = some c := by
  cases h with
  | sendEvent roomId type content ignoreError =>
    simp only [MatrixRequest.shown, newStringUTF_stringWrapper]
    rfl
  | uploadFile fileName mineType fileJsonInfo data fits =>
    simp only [MatrixRequest.shown, newStringUTF_stringWrapper, newFilledArray_eq fits,
      toInt_castToJint fits]
    rfl
  | downloadFile fileName mineType jsonInfo mxcUri =>
    simp only [MatrixRequest.shown, newStringUTF_stringWrapper]
    rfl
  | progress percent => rfl

theorem MatrixRequest.OfTexts.exists_shownAs {request : MatrixRequest} (h : request.OfTexts) :
    ∃ c, ShownAs request c := by
  cases request with
  | sendEvent roomId type content ignoreError =>
    obtain ⟨⟨r, rfl⟩, ⟨t, rfl⟩, ⟨c, rfl⟩⟩ := h
    exact ⟨_, .sendEvent r t c ignoreError⟩
  | uploadFile fileName mineType fileJsonInfo data =>
    obtain ⟨⟨f, rfl⟩, ⟨t, rfl⟩, ⟨i, rfl⟩, fits⟩ := h
    exact ⟨_, .uploadFile f t i data fits⟩
  | downloadFile fileName mineType jsonInfo mxcUri =>
    obtain ⟨⟨f, rfl⟩, ⟨t, rfl⟩, ⟨i, rfl⟩, ⟨u, rfl⟩⟩ := h
    exact ⟨_, .downloadFile f t i u⟩
  | progress percent => exact ⟨_, .progress percent⟩

/-- The calls that requests of texts become. -/
theorem exists_calls {requests : List MatrixRequest}
    (h : ∀ request ∈ requests, request.OfTexts) : ∃ calls, List.Forall₂ ShownAs requests calls := by
  induction requests with
  | nil => exact ⟨[], .nil⟩
  | cons request rest ih =>
    obtain ⟨c, hc⟩ := (h request List.mem_cons_self).exists_shownAs
    obtain ⟨later, hlater⟩ := ih fun other hother => h other (List.mem_cons_of_mem _ hother)
    exact ⟨c :: later, .cons hc hlater⟩

theorem mapM_shown {requests : List MatrixRequest} {calls : List ExecutorCall}
    (h : List.Forall₂ ShownAs requests calls) :
    requests.mapM MatrixRequest.shown = some calls := by
  induction h with
  | nil => exact List.mapM_nil
  | cons hc _ ih => exact shown_cons.mpr ⟨_, _, hc.shown, ih, rfl⟩

/-- A place in both lists. -/
theorem getElem?_cases {requests : List MatrixRequest} {calls : List ExecutorCall}
    (h : List.Forall₂ ShownAs requests calls) (n : Nat) :
    (requests[n]? = none ∧ calls[n]? = none) ∨
      ∃ request c, requests[n]? = some request ∧ calls[n]? = some c ∧ ShownAs request c := by
  induction h generalizing n with
  | nil => exact Or.inl ⟨rfl, rfl⟩
  | cons hc _ ih =>
    cases n with
    | zero => exact Or.inr ⟨_, _, rfl, rfl, hc⟩
    | succ n => exact ih n

/-! ## Executors that do not throw -/

theorem afterCalls_noting (executors : Executors σ θ) (s : σ × List ExecutorCall)
    (calls : List ExecutorCall) :
    (afterCalls (noting executors) s calls).2 = s.2 ++ calls := by
  induction calls generalizing s with
  | nil => exact (List.append_nil s.2).symm
  | cons c later ih => exact (ih (noting executors s c).2).trans (List.append_assoc s.2 [c] later)

theorem NeverThrow.thrownBy_noting {executors : Executors σ θ} (h : NeverThrow executors)
    (s : σ × List ExecutorCall) (calls : List ExecutorCall) :
    ∀ t ∈ thrownBy (noting executors) s calls, t = none := by
  induction calls generalizing s with
  | nil => exact fun _ h => nomatch h
  | cons c later ih =>
    have hquiet : (noting executors s c).1 = .ok () := h s.1 c
    intro t ht
    rw [thrownBy, hquiet] at ht
    rcases List.mem_cons.mp ht with rfl | hlater
    · rfl
    · exact ih _ t hlater

/-! ## A phone and its library -/

/-- What Java gets for an answer. -/
def javaAnswer (answer : RoomAnswer) : JResult JRoomValue := (.ok answer.1, ⟨answer.2⟩)

/-- The phone of a library. -/
structure PhoneOf (node : RoomNode ν) (phone : RoomPhone σ ν) : Prop where
  /-- The library is in the same state. -/
  nuMatrix : phone.nuMatrix = node.nuMatrix
  /-- The executors were asked for what the library has asked for, in order. -/
  heard : List.Forall₂ ShownAs node.asked phone.heard
  /-- Java got the answers. -/
  results : phone.results.map some = node.answers.map (Option.map javaAnswer)

section Refinement

variable {matrix : LibMatrix ν} {ownWork : ν → MatrixCall ν Unit} {vm : VmAnswers}
  {executors : Executors σ θ}

/-- **A method.** -/
theorem PhoneOf.perform (hvm : vm.getEnvFailure = none) (hquiet : NeverThrow executors)
    {node : RoomNode ν} {phone : RoomPhone σ ν} (h : PhoneOf node phone) {method : RoomMethod ν}
    (htexts : ∀ request ∈ (method.told node.nuMatrix).requests, request.OfTexts)
    (hanswer : (method.told node.nuMatrix).ended.answer ≠ none) :
    PhoneOf (node.perform method) (phone.perform vm executors method) := by
  obtain ⟨calls, hcalls⟩ := exists_calls htexts
  obtain ⟨answer, hanswer⟩ := Option.ne_none_iff_exists'.mp hanswer
  have hclear := forall_none_iff.mp (hquiet.thrownBy_noting (phone.app, phone.heard) calls)
  have hworks : (method.told phone.nuMatrix).Works (noting executors) (phone.app, phone.heard)
      calls answer := by
    rw [h.nuMatrix]
    exact ⟨mapM_shown hcalls, hclear.1, fun _ => hclear.2, hanswer⟩
  -- the method on the phone comes to what is told
  have hfollows : Follows (noting executors) (method.run vm (noting executors)) method.told :=
    follows_roomMethod hvm method
  have hattached : javaThread.Attached := Option.some_ne_none 0
  unfold RoomPhone.perform RoomNode.perform
  rw [hfollows.returns hattached rfl hworks]
  refine ⟨?_, ?_, ?_⟩
  · show (method.told phone.nuMatrix).next = (method.told node.nuMatrix).next
    rw [h.nuMatrix]
  · show List.Forall₂ ShownAs (node.asked ++ _)
      (afterCalls (noting executors) (phone.app, phone.heard) calls).2
    rw [afterCalls_noting]
    exact List.rel_append h.heard hcalls
  · show (phone.results ++ _).map some = (node.answers ++ _).map _
    rw [List.map_append, List.map_append, h.results, List.map_singleton, List.map_singleton,
      hanswer]
    rfl

/-- **The library by itself.** What its executors throw would be reported and not matter. -/
theorem PhoneOf.work (hvm : vm.attachResult = 0) {node : RoomNode ν} {phone : RoomPhone σ ν}
    (h : PhoneOf node phone)
    (htexts : ∀ request ∈ (ownWork node.nuMatrix).asked MatrixRequest.reply, request.OfTexts) :
    PhoneOf (node.work ownWork) (phone.work vm executors ownWork) := by
  obtain ⟨calls, hcalls⟩ := exists_calls htexts
  have hattached : (attachedRequests (fun _ => vm) 0
      ((ownWork node.nuMatrix).asked MatrixRequest.reply)).mapM MatrixRequest.shown =
        some calls := by
    rw [attachedRequests_all fun _ => hvm]
    exact mapM_shown hcalls
  have hrun := @run_onLibraryThread _ _ _ (noting executors) (fun _ => vm) (ownWork node.nuMatrix)
    ⟨(phone.app, phone.heard), libraryThread, none, []⟩ rfl rfl _ hattached
  have hheard : List.Forall₂ ShownAs
      (node.asked ++ (ownWork node.nuMatrix).asked MatrixRequest.reply)
      (afterCalls (noting executors) (phone.app, phone.heard) calls).2 := by
    rw [afterCalls_noting]
    exact List.rel_append h.heard hcalls
  unfold RoomPhone.work RoomNode.work
  rw [h.nuMatrix, hrun]
  cases (ownWork node.nuMatrix).ending MatrixRequest.reply with
  | error e => exact ⟨rfl, hheard, h.results⟩
  | ok ended => exact ⟨rfl, hheard, h.results⟩

/-- **What is handed on.** The apps hand on to the libraries, byte by byte, what these have asked
    for. -/
theorem method_eq {phones : ι → RoomPhone σ ν} {nodes : ι → RoomNode ν}
    (h : ∀ i, PhoneOf (nodes i) (phones i)) (step : RoomStep ι ν) :
    step.method matrix phones = step.libraryMethod matrix nodes := by
  cases step with
  | call phone method => rfl
  | deliver phone sender n stamp =>
    rcases getElem?_cases (h sender).heard n with ⟨hasked, hheard⟩ | ⟨_, _, hasked, hheard, hc⟩
    · simp only [RoomStep.method, RoomStep.libraryMethod, hasked, hheard]
    · simp only [RoomStep.method, RoomStep.libraryMethod, hasked, hheard]
      cases hc <;> rfl
  | deliverSync phone sender n stamp =>
    rcases getElem?_cases (h sender).heard n with ⟨hasked, hheard⟩ | ⟨_, _, hasked, hheard, hc⟩
    · simp only [RoomStep.method, RoomStep.libraryMethod, hasked, hheard]
    · simp only [RoomStep.method, RoomStep.libraryMethod, hasked, hheard]
      cases hc <;> rfl
  | uploaded phone n url =>
    rcases getElem?_cases (h phone).heard n with ⟨hasked, hheard⟩ | ⟨_, _, hasked, hheard, hc⟩
    · simp only [RoomStep.method, RoomStep.libraryMethod, hasked, hheard]
    · simp only [RoomStep.method, RoomStep.libraryMethod, hasked, hheard]
      cases hc <;> rfl
  | downloaded phone m owner n =>
    rcases getElem?_cases (h phone).heard m with ⟨hasked, hheard⟩ | ⟨_, _, hasked, hheard, hc⟩
    · simp only [RoomStep.method, RoomStep.libraryMethod, hasked, hheard]
    · rcases getElem?_cases (h owner).heard n with ⟨hfile, hgiven⟩ | ⟨_, _, hfile, hgiven, hfc⟩
      · simp only [RoomStep.method, RoomStep.libraryMethod, hasked, hheard, hfile, hgiven]
      · simp only [RoomStep.method, RoomStep.libraryMethod, hasked, hheard, hfile, hgiven]
        cases hc <;> cases hfc <;> try rfl
        -- the array holds the bytes of the file
        simp only [downloadFileCallback, nativeBytes_roundTrip]
  | own phone => rfl

variable [DecidableEq ι]

/-- Phones of libraries, after one of them has changed as its library has. -/
theorem phoneOf_update {phones : ι → RoomPhone σ ν} {nodes : ι → RoomNode ν}
    (h : ∀ i, PhoneOf (nodes i) (phones i)) {i : ι} {node : RoomNode ν} {phone : RoomPhone σ ν}
    (hchanged : PhoneOf node phone) (j : ι) :
    PhoneOf (Function.update nodes i node j) (Function.update phones i phone j) := by
  by_cases hj : j = i
  · subst hj
    rw [Function.update_self, Function.update_self]
    exact hchanged
  · rw [Function.update_of_ne hj, Function.update_of_ne hj]
    exact h j

/-- **A step.** -/
theorem phoneOf_step (hget : vm.getEnvFailure = none) (hattach : vm.attachResult = 0)
    (hquiet : NeverThrow executors) {phones : ι → RoomPhone σ ν} {nodes : ι → RoomNode ν}
    (h : ∀ i, PhoneOf (nodes i) (phones i)) {step : RoomStep ι ν}
    (htexts : step.OfTexts matrix ownWork nodes) (i : ι) :
    PhoneOf (nodeStep matrix ownWork nodes step i)
      (phoneStep matrix ownWork vm executors phones step i) := by
  have hmethod : step.method matrix phones = step.libraryMethod matrix nodes := method_eq h step
  unfold RoomStep.OfTexts at htexts
  unfold nodeStep phoneStep
  rw [hmethod]
  by_cases hown : ∃ phone, step = .own phone
  · obtain ⟨phone, rfl⟩ := hown
    exact phoneOf_update h ((h phone).work hattach htexts) i
  · -- a method is called, or there is nothing to hand on
    cases hcalled : step.libraryMethod matrix nodes with
    | none =>
      cases step with
      | own phone => exact absurd ⟨phone, rfl⟩ hown
      | _ => exact h i
    | some called =>
      rw [hcalled] at htexts
      cases step with
      | own phone => exact absurd ⟨phone, rfl⟩ hown
      | _ => exact phoneOf_update h ((h called.1).perform hget hquiet htexts.1 htexts.2) i

/-- **Phones refine libraries.** Whatever methods are called and whatever the libraries do by
    themselves, and in whatever order events and files arrive, late, twice or not at all: where the
    libraries ask for texts only and no executor throws, their states on the phones are those of the
    libraries alone, the apps are asked for what the libraries ask for, and Java gets their
    answers. -/
theorem rooms_refine (hget : vm.getEnvFailure = none) (hattach : vm.attachResult = 0)
    (hquiet : NeverThrow executors) {phones : ι → RoomPhone σ ν} {nodes : ι → RoomNode ν}
    (h : ∀ i, PhoneOf (nodes i) (phones i)) {steps : List (RoomStep ι ν)}
    (htexts : Along (nodeStep matrix ownWork)
      (fun nodes step => step.OfTexts matrix ownWork nodes) nodes steps) (i : ι) :
    PhoneOf (runFrom (nodeStep matrix ownWork) nodes steps i)
      (runFrom (phoneStep matrix ownWork vm executors) phones steps i) := by
  have hkeep : ∀ (nodes : ι → RoomNode ν) (phones : ι → RoomPhone σ ν) (step : RoomStep ι ν),
      (∀ i, PhoneOf (nodes i) (phones i)) → step.OfTexts matrix ownWork nodes →
      ∀ i, PhoneOf (nodeStep matrix ownWork nodes step i)
        (phoneStep matrix ownWork vm executors phones step i) :=
    fun _ _ _ h htexts i => phoneOf_step hget hattach hquiet h htexts i
  exact runFrom_rel hkeep h htexts i

end Refinement

/-! ## A backup -/

/-- A library call that throws. -/
def refusedCall {α : Type} (files : List (List UInt8)) : MatrixCall (List (List UInt8)) α :=
  .done (.error (.std "refused"), files)

/-- A library that makes and restores backups. Its state is the files that it has restored. -/
def backupMatrix : LibMatrix (List (List UInt8)) where
  initWallet _ _ _ _ _ _ _ _ := refusedCall
  joinWallet _ _ := refusedCall
  leaveWallet _ _ _ := refusedCall
  cancelWallet _ _ := refusedCall
  createWallet _ := refusedCall
  hasRoomWallet _ := refusedCall
  getRoomWallet _ := refusedCall
  getAllRoomWallets := refusedCall
  consumeEvent _ := refusedCall
  initTransaction _ _ _ _ _ _ := refusedCall
  signTransaction _ _ := refusedCall
  rejectTransaction _ _ := refusedCall
  cancelTransaction _ _ := refusedCall
  broadcastTransaction _ := refusedCall
  getRoomTransaction _ := refusedCall
  getPendingTransactions _ := refusedCall
  getTransactionId _ := refusedCall
  sendErrorEvent _ _ _ _ := refusedCall
  getEvent _ := refusedCall
  consumeSyncEvent event files :=
    .send (.downloadFile event.eventId event.type event.content event.content) fun _ =>
      .done (.ok (), files)
  downloadFileCallback _ data files :=
    .send (.progress 100) fun _ => .done (.ok (), files ++ [data])
  writeFileCallback _ _ := refusedCall
  uploadFileCallback info url files :=
    .send (.sendEvent (stringWrapper [33]) info url true) fun _ => .done (.ok (), files)
  enableAutoBackup _ := refusedCall
  registerAutoBackup _ _ := refusedCall
  backup files :=
    .send (.uploadFile (stringWrapper [98]) (stringWrapper [98]) (stringWrapper [123]) [1, 0, 255])
      fun _ => .done (.ok (), files)
  registerFileFunc := refusedCall

/-- One phone makes a backup. The other hears of it twice and restores it twice. -/
def backupSteps : List (RoomStep Bool (List (List UInt8))) :=
  [.call false (backup backupMatrix), .uploaded false 0 [117],
    .deliverSync true false 1 ⟨[36], [64], 7⟩, .deliverSync true false 1 ⟨[36], [64], 7⟩,
    .downloaded true 0 false 0, .own true, .downloaded true 1 false 0]

/-- A backup library that works by itself reports a progress. -/
def reportsHalf (files : List (List UInt8)) : MatrixCall (List (List UInt8)) Unit :=
  .send (.progress 50) fun _ => .done (.ok (), files)

/-- Executors that count their calls. -/
def countsCalls : Executors Nat String := fun n _ => (.ok (), n + 1)

/-- The bytes arrive, as often as they are restored. -/
theorem backupSteps_restored :
    (runFrom (phoneStep backupMatrix reportsHalf ⟨none, 0⟩ countsCalls) (fun _ => ⟨[], 0, [], []⟩)
      backupSteps true).nuMatrix = [[1, 0, 255], [1, 0, 255]] := by
  have htext : ∀ s : JString, IsText (stringWrapper s) := isText_stringWrapper
  have htexts : Along (nodeStep backupMatrix reportsHalf)
      (fun nodes step => step.OfTexts backupMatrix reportsHalf nodes) (fun _ => ⟨[], [], []⟩)
      backupSteps := by
    refine ⟨⟨?_, ?_⟩, ⟨?_, ?_⟩, ⟨?_, ?_⟩, ⟨?_, ?_⟩, ⟨?_, ?_⟩, ?_, ⟨?_, ?_⟩, trivial⟩
    all_goals first
      | exact Option.some_ne_none _
      | refine List.forall_mem_singleton.mpr ?_
    · exact ⟨htext [98], htext [98], htext [123], by decide⟩
    · exact ⟨htext [33], htext [123], htext [117]⟩
    · exact ⟨htext [36], htext [123], htext [117], htext [117]⟩
    · exact ⟨htext [36], htext [123], htext [117], htext [117]⟩
    · trivial
    · trivial
    · trivial
  have hfresh : ∀ i : Bool, @PhoneOf (List (List UInt8)) Nat ⟨[], [], []⟩ ⟨[], 0, [], []⟩ :=
    fun _ => ⟨rfl, .nil, rfl⟩
  exact (rooms_refine rfl rfl (fun _ _ => rfl) hfresh htexts true).nuMatrix.trans rfl

end NunchukSdk
