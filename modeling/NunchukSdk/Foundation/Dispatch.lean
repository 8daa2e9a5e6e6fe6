import Mathlib.Data.List.Perm.Basic
import NunchukSdk.Foundation.EventRun

/-!
# A Dispatcher Without an Order

Tasks are requested one after another. A request is kept, and launches its task, or it is lost.
Tasks in flight run one after another, but any of them may be the next one. Each task has a key and
a value. For one key we ask that the values of the tasks that have run stand in the order of the
requests.

- With every run allowed, the last value is that of the last request exactly when the first request
  of each key is kept and the requests of a key all have one value (`inOrder_all_iff`): a
  dispatcher reaches every permutation (`exists_run_of_perm`).
- All values arrive, in order, exactly when every request is kept beside that
  (`inFull_all_iff`).
- A run that loses nothing and always takes the oldest task of a key keeps the order, whatever the
  values (`inFull_of_oldestFirst`).
-/

namespace NunchukSdk.Foundation

variable {α β κ : Type*}

/-! ## The dispatcher -/

/-- Tasks that were requested, each with whether it was launched, those in flight, and those that
    have run. -/
structure Dispatcher (α : Type*) where
  requested : List (α × Bool) := []
  inFlight : List α := []
  done : List α := []

/-- A request, which is kept or lost, or the run of the task at a place among those in flight. -/
inductive DispatchEvent (α : Type*) where
  | request (a : α) (kept : Bool)
  | run (i : Nat)

/-- One event; where no task is in flight at the place, nothing happens. -/
def dispatch (s : Dispatcher α) : DispatchEvent α → Dispatcher α
  | .request a kept =>
    { s with
      requested := s.requested ++ [(a, kept)]
      inFlight := if kept then s.inFlight ++ [a] else s.inFlight }
  | .run i =>
    match s.inFlight[i]? with
    | some a => { s with inFlight := s.inFlight.eraseIdx i, done := s.done ++ [a] }
    | none => s

/-- The requests among the events, each with whether it was kept. -/
def requestsIn (es : List (DispatchEvent α)) : List (α × Bool) :=
  es.filterMap fun
    | .request a kept => some (a, kept)
    | .run _ => none

/-- The tasks of the requests that are kept. -/
def launchedOf (requests : List (α × Bool)) : List α :=
  (requests.filter Prod.snd).map Prod.fst

theorem dispatch_run_some {s : Dispatcher α} {i : Nat} {a : α} (h : s.inFlight[i]? = some a) :
    dispatch s (.run i) =
      { s with inFlight := s.inFlight.eraseIdx i, done := s.done ++ [a] } := by
  simp only [dispatch, h]

theorem dispatch_run_none {s : Dispatcher α} {i : Nat} (h : s.inFlight[i]? = none) :
    dispatch s (.run i) = s := by
  simp only [dispatch, h]

theorem requestsIn_append (es es' : List (DispatchEvent α)) :
    requestsIn (es ++ es') = requestsIn es ++ requestsIn es' :=
  List.filterMap_append

theorem launchedOf_append (requests requests' : List (α × Bool)) :
    launchedOf (requests ++ requests') = launchedOf requests ++ launchedOf requests' := by
  simp [launchedOf]

theorem mem_launchedOf {requests : List (α × Bool)} {a : α} :
    a ∈ launchedOf requests ↔ (a, true) ∈ requests := by
  simp [launchedOf]

theorem launchedOf_of_kept {requests : List (α × Bool)} (h : ∀ r ∈ requests, r.2 = true) :
    launchedOf requests = requests.map Prod.fst := by
  rw [launchedOf, List.filter_eq_self.mpr h]

theorem launchedOf_concat_lost {requests : List (α × Bool)} {r : α × Bool} (h : r.2 ≠ true) :
    launchedOf (requests ++ [r]) = launchedOf requests := by
  have hlost : r.2 = false := Bool.eq_false_iff.mpr h
  simp [launchedOf, List.filter_append, hlost]

theorem launchedOf_sublist (requests : List (α × Bool)) :
    (launchedOf requests).Sublist (requests.map Prod.fst) :=
  List.filter_sublist.map Prod.fst

/-- What is requested, whatever runs. -/
theorem requested_runFrom (s : Dispatcher α) (es : List (DispatchEvent α)) :
    (runFrom dispatch s es).requested = s.requested ++ requestsIn es := by
  induction es generalizing s with
  | nil => simp [runFrom, requestsIn]
  | cons e es ih =>
    have hrest := ih (dispatch s e)
    simp only [runFrom, List.foldl_cons] at hrest ⊢
    rw [hrest]
    cases e with
    | request a kept => simp [dispatch, requestsIn]
    | run i =>
      cases htask : s.inFlight[i]? with
      | none => simp [dispatch_run_none htask, requestsIn]
      | some a => simp [dispatch_run_some htask, requestsIn]

/-! ## Values of a key -/

section Keys

variable [DecidableEq κ] {key : α → κ} {value : α → β}

/-- The values of the tasks with a key. -/
def valuesAt (key : α → κ) (value : α → β) (k : κ) (tasks : List α) : List β :=
  (tasks.filter fun a => key a = k).map value

@[simp] theorem valuesAt_nil (k : κ) : valuesAt key value k [] = [] := rfl

@[simp] theorem valuesAt_append (k : κ) (l l' : List α) :
    valuesAt key value k (l ++ l') = valuesAt key value k l ++ valuesAt key value k l' := by
  simp [valuesAt]

theorem valuesAt_cons_self (a : α) (l : List α) :
    valuesAt key value (key a) (a :: l) = value a :: valuesAt key value (key a) l := by
  simp [valuesAt]

theorem valuesAt_cons_of_eq {a : α} {k : κ} (h : key a = k) (l : List α) :
    valuesAt key value k (a :: l) = value a :: valuesAt key value k l := by
  subst h
  exact valuesAt_cons_self a l

theorem valuesAt_eq_nil {k : κ} {l : List α} (h : ∀ a ∈ l, key a ≠ k) :
    valuesAt key value k l = [] := by
  rw [valuesAt, List.map_eq_nil_iff, List.filter_eq_nil_iff]
  intro a ha
  simp [h a ha]

theorem valuesAt_map {γ : Type*} (f : γ → α) (k : κ) (l : List γ) :
    valuesAt key value k (l.map f) = valuesAt (fun c => key (f c)) (fun c => value (f c)) k l := by
  simp only [valuesAt, List.filter_map, List.map_map, Function.comp_def]

theorem mem_valuesAt {k : κ} {l : List α} {b : β} :
    b ∈ valuesAt key value k l ↔ ∃ a ∈ l, key a = k ∧ value a = b := by
  simp [valuesAt, and_assoc]

theorem perm_valuesAt {k : κ} {l l' : List α} (h : l.Perm l') :
    (valuesAt key value k l).Perm (valuesAt key value k l') :=
  (h.filter _).map _

theorem sublist_valuesAt {k : κ} {l l' : List α} (h : l.Sublist l') :
    (valuesAt key value k l).Sublist (valuesAt key value k l') :=
  (h.filter _).map _

/-- For every key the values that have run stand in the order of the requests, and once no task of
    the key is in flight the last of them is that of its last request. -/
def Dispatcher.InOrder (key : α → κ) (value : α → β) (s : Dispatcher α) : Prop :=
  ∀ k, (valuesAt key value k s.done).Sublist (valuesAt key value k (s.requested.map Prod.fst)) ∧
    ((∀ a ∈ s.inFlight, key a ≠ k) →
      (valuesAt key value k s.done).getLast? =
        (valuesAt key value k (s.requested.map Prod.fst)).getLast?)

/-- For every key the values that have run stand in the order of the requests, and are all of them
    once no task of the key is in flight. -/
def Dispatcher.InFull (key : α → κ) (value : α → β) (s : Dispatcher α) : Prop :=
  ∀ k, (valuesAt key value k s.done).Sublist (valuesAt key value k (s.requested.map Prod.fst)) ∧
    ((∀ a ∈ s.inFlight, key a ≠ k) →
      valuesAt key value k s.done = valuesAt key value k (s.requested.map Prod.fst))

theorem Dispatcher.InFull.inOrder {s : Dispatcher α} (h : s.InFull key value) :
    s.InOrder key value := by
  intro k
  refine ⟨(h k).1, ?_⟩
  intro hidle
  rw [(h k).2 hidle]

/-! ## Tasks are not lost -/

/-- What was launched is in flight or has run. -/
def Dispatcher.Conserves (s : Dispatcher α) : Prop :=
  (s.done ++ s.inFlight).Perm (launchedOf s.requested)

theorem dispatch_conserves {s : Dispatcher α} (h : s.Conserves) (e : DispatchEvent α) :
    (dispatch s e).Conserves := by
  cases e with
  | request a kept =>
    show (s.done ++ if kept then s.inFlight ++ [a] else s.inFlight).Perm
      (launchedOf (s.requested ++ [(a, kept)]))
    rw [launchedOf_append]
    cases kept with
    | true =>
      have hall : (s.done ++ s.inFlight ++ [a]).Perm (launchedOf s.requested ++ [a]) :=
        h.append_right [a]
      rwa [List.append_assoc] at hall
    | false => exact h.trans (List.Perm.of_eq (List.append_nil _).symm)
  | run i =>
    cases htask : s.inFlight[i]? with
    | none => rwa [dispatch_run_none htask]
    | some a =>
      rw [dispatch_run_some htask]
      obtain ⟨hi, hget⟩ := List.getElem?_eq_some_iff.mp htask
      -- the task that runs moves from the ones in flight to the done ones
      have hmove : (a :: s.inFlight.eraseIdx i).Perm s.inFlight := by
        rw [← hget]
        exact List.getElem_cons_eraseIdx_perm hi
      have hall : (s.done ++ [a] ++ s.inFlight.eraseIdx i).Perm (s.done ++ s.inFlight) := by
        rw [List.append_assoc]
        exact hmove.append_left s.done
      exact hall.trans h

theorem conserves_runFrom (es : List (DispatchEvent α)) :
    (runFrom dispatch ({} : Dispatcher α) es).Conserves := by
  have hinit : ({} : Dispatcher α).Conserves := List.Perm.refl []
  have hall : ∀ t ∈ states dispatch {} es, Dispatcher.Conserves t :=
    forall_states_of_inv (fun _ e hs _ => dispatch_conserves hs e) hinit (along_true dispatch {} es)
  exact hall _ (runFrom_mem_states dispatch {} es)

/-- Where one value is repeated there is nothing to reorder. -/
theorem sublist_of_oneValue {l l' ls vs : List β} (h : (l ++ l').Perm ls) (hls : ls.Sublist vs)
    (hsame : ∀ b ∈ vs, ∀ c ∈ vs, b = c) : l.Sublist vs ∧ (l' = [] → l = ls) := by
  rcases vs with _ | ⟨v, vs⟩
  · rw [List.sublist_nil.mp hls] at h ⊢
    rw [(List.append_eq_nil_iff.mp h.eq_nil).1]
    exact ⟨List.Sublist.refl [], fun _ => rfl⟩
  · -- all lists are copies of one value, and the first is no longer than the last
    have hvs : ∀ b ∈ v :: vs, b = v := fun b hb => hsame b hb v List.mem_cons_self
    have hls' : ∀ b ∈ ls, b = v := fun b hb => hvs b (hls.subset hb)
    have hl : ∀ b ∈ l, b = v := fun b hb => hls' b (h.subset (List.mem_append_left _ hb))
    have hlength := h.length_eq
    have hle := hls.length_le
    rw [List.length_append] at hlength
    rw [List.eq_replicate_length.mpr hvs, List.eq_replicate_length.mpr hl,
      List.eq_replicate_length.mpr hls']
    constructor
    · rw [List.replicate_sublist_replicate]
      omega
    · rintro rfl
      rw [← hlength, List.length_nil, Nat.add_zero]

/-- The requests of a key all have one value. -/
def OneValue (key : α → κ) (value : α → β) (requests : List (α × Bool)) : Prop :=
  ∀ q ∈ requests, ∀ r ∈ requests, key q.1 = key r.1 → value q.1 = value r.1

/-- When the requests of a key all have one value, what has run is in order, and what was launched
    has run once no task of the key is in flight. -/
theorem sublist_runFrom_of_oneValue {es : List (DispatchEvent α)}
    (h : OneValue key value (requestsIn es)) (k : κ) :
    (valuesAt key value k (runFrom dispatch {} es).done).Sublist
        (valuesAt key value k ((requestsIn es).map Prod.fst)) ∧
      ((∀ a ∈ (runFrom dispatch {} es).inFlight, key a ≠ k) →
        valuesAt key value k (runFrom dispatch {} es).done =
          valuesAt key value k (launchedOf (requestsIn es))) := by
  have hrequested : (runFrom dispatch {} es).requested = requestsIn es := requested_runFrom {} es
  have hperm : (valuesAt key value k (runFrom dispatch {} es).done ++
      valuesAt key value k (runFrom dispatch {} es).inFlight).Perm
      (valuesAt key value k (launchedOf (requestsIn es))) := by
    have hconserves : Dispatcher.Conserves (runFrom dispatch {} es) := conserves_runFrom es
    rw [Dispatcher.Conserves, hrequested] at hconserves
    rw [← valuesAt_append]
    exact perm_valuesAt hconserves
  -- all values of the key are one
  have hsame : ∀ b ∈ valuesAt key value k ((requestsIn es).map Prod.fst),
      ∀ c ∈ valuesAt key value k ((requestsIn es).map Prod.fst), b = c := by
    intro b hb c hc
    obtain ⟨a, ha, hak, rfl⟩ := mem_valuesAt.mp hb
    obtain ⟨a', ha', hak', rfl⟩ := mem_valuesAt.mp hc
    obtain ⟨q, hq, rfl⟩ := List.mem_map.mp ha
    obtain ⟨r, hr, rfl⟩ := List.mem_map.mp ha'
    exact h q hq r hr (hak.trans hak'.symm)
  obtain ⟨hsublist, hall⟩ := sublist_of_oneValue hperm
    (sublist_valuesAt (launchedOf_sublist (requestsIn es))) hsame
  exact ⟨hsublist, fun hidle => hall (valuesAt_eq_nil hidle)⟩

/-! ## Oldest first -/

/-- A request is kept, and a task that runs is the oldest in flight of its key. -/
def OldestFirst (key : α → κ) (s : Dispatcher α) : DispatchEvent α → Prop
  | .request _ kept => kept = true
  | .run i => ∀ a, s.inFlight[i]? = some a → ∀ b ∈ s.inFlight.take i, key b ≠ key a

/-- For every key the tasks that have run come first, then those in flight, all in the order of
    the requests. -/
def Dispatcher.Queued (key : α → κ) (value : α → β) (s : Dispatcher α) : Prop :=
  ∀ k, valuesAt key value k s.done ++ valuesAt key value k s.inFlight =
    valuesAt key value k (s.requested.map Prod.fst)

/-- The values in flight, before, at and behind a place. -/
theorem valuesAt_split {l : List α} {i : Nat} {a : α} (h : l[i]? = some a) (k : κ) :
    valuesAt key value k l =
      valuesAt key value k (l.take i) ++
        (valuesAt key value k [a] ++ valuesAt key value k (l.drop (i + 1))) := by
  obtain ⟨hi, hget⟩ := List.getElem?_eq_some_iff.mp h
  rw [← valuesAt_append, ← valuesAt_append, List.singleton_append, ← hget,
    List.getElem_cons_drop hi, List.take_append_drop]

/-- Running the oldest task of its key keeps the order of every key. -/
theorem dispatch_queued {s : Dispatcher α} (h : s.Queued key value) {e : DispatchEvent α}
    (he : OldestFirst key s e) : (dispatch s e).Queued key value := by
  intro k
  cases e with
  | request a kept =>
    have hkept : kept = true := he
    rw [hkept]
    simp only [dispatch, if_true, List.map_append, List.map_singleton, valuesAt_append, ← h k,
      List.append_assoc]
  | run i =>
    cases htask : s.inFlight[i]? with
    | none =>
      rw [dispatch_run_none htask]
      exact h k
    | some a =>
      rw [dispatch_run_some htask, List.eraseIdx_eq_take_drop_succ, ← h k, valuesAt_split htask]
      simp only [valuesAt_append]
      -- the task moves past older ones of other keys only
      by_cases hk : key a = k
      · have holder : valuesAt key value k (s.inFlight.take i) = [] := by
          apply valuesAt_eq_nil
          rw [← hk]
          exact he a htask
        rw [holder, List.nil_append, List.nil_append, List.append_assoc]
      · have hother : valuesAt key value k [a] = [] := by
          apply valuesAt_eq_nil
          intro b hb
          rwa [List.mem_singleton.mp hb]
        rw [hother, List.append_nil, List.nil_append]

theorem inFull_of_queued {s : Dispatcher α} (h : s.Queued key value) : s.InFull key value := by
  intro k
  rw [← h k]
  constructor
  · exact List.sublist_append_left _ _
  · intro hidle
    rw [valuesAt_eq_nil hidle, List.append_nil]

/-- A run that keeps every request and takes the oldest task of a key first is in order in every
    state. -/
theorem inFull_of_oldestFirst {es : List (DispatchEvent α)}
    (h : Along dispatch (OldestFirst key) {} es) :
    ∀ t ∈ states dispatch {} es, t.InFull key value := by
  intro t ht
  have hinit : ({} : Dispatcher α).Queued key value := fun _ => rfl
  have hqueued := forall_states_of_inv (I := Dispatcher.Queued key value)
    (fun s e hs he => dispatch_queued hs he) hinit h
  exact inFull_of_queued (hqueued t ht)

/-! ## Every order is reached -/

/-- The tasks in flight can be run in any order. -/
theorem exists_run_of_perm {p : List α} (s : Dispatcher α) (h : s.inFlight.Perm p) :
    ∃ es, requestsIn es = [] ∧
      runFrom dispatch s es = ⟨s.requested, [], s.done ++ p⟩ := by
  induction p generalizing s with
  | nil =>
    refine ⟨[], rfl, ?_⟩
    rw [List.append_nil, ← h.eq_nil]
    rfl
  | cons a p ih =>
    -- the task that is to run first is somewhere in flight
    obtain ⟨i, hi, hget⟩ := List.getElem_of_mem (h.mem_iff.mpr List.mem_cons_self)
    have htask : s.inFlight[i]? = some a := List.getElem?_eq_some_iff.mpr ⟨hi, hget⟩
    have hrest : (s.inFlight.eraseIdx i).Perm p := by
      have hmove := List.getElem_cons_eraseIdx_perm hi
      rw [hget] at hmove
      exact (hmove.trans h).cons_inv
    obtain ⟨es, hes, hrun⟩ := ih (dispatch s (.run i)) (by rwa [dispatch_run_some htask])
    refine ⟨.run i :: es, hes, ?_⟩
    rw [dispatch_run_some htask, List.append_assoc, List.singleton_append] at hrun
    simp only [runFrom, List.foldl_cons, dispatch_run_some htask] at hrun ⊢
    exact hrun

/-- The events of some requests. -/
def requesting (requests : List (α × Bool)) : List (DispatchEvent α) :=
  requests.map fun r => .request r.1 r.2

theorem requestsIn_requesting (requests : List (α × Bool)) :
    requestsIn (requesting requests) = requests := by
  simp [requestsIn, requesting, List.filterMap_map]

theorem runFrom_requesting (s : Dispatcher α) (requests : List (α × Bool)) :
    runFrom dispatch s (requesting requests) =
      ⟨s.requested ++ requests, s.inFlight ++ launchedOf requests, s.done⟩ := by
  induction requests generalizing s with
  | nil => simp [runFrom, requesting, launchedOf]
  | cons r requests ih =>
    obtain ⟨a, kept⟩ := r
    have hstep := ih (dispatch s (.request a kept))
    cases kept with
    | true => simpa [runFrom, requesting, launchedOf, dispatch] using hstep
    | false => simpa [runFrom, requesting, launchedOf, dispatch] using hstep

/-- Some run makes given requests and runs what they launch in a given order. -/
theorem exists_runFrom_of_perm {requests : List (α × Bool)} {p : List α}
    (h : (launchedOf requests).Perm p) :
    ∃ es, requestsIn es = requests ∧
      runFrom dispatch {} es = ⟨requests, [], p⟩ := by
  obtain ⟨es, hes, hrun⟩ := exists_run_of_perm ⟨requests, launchedOf requests, []⟩ h
  refine ⟨requesting requests ++ es, ?_, ?_⟩
  · rw [requestsIn_append, requestsIn_requesting, hes, List.append_nil]
  · rw [runFrom_append, runFrom_requesting]
    exact hrun

/-- What holds in every state of every run with given requests, holds at the end of every run with
    the first of them. -/
theorem forall_states_requests_iff {P : Dispatcher α → Prop} {requests : List (α × Bool)} :
    (∀ es, requestsIn es = requests → ∀ t ∈ states dispatch {} es, P t) ↔
      ∀ es, requestsIn es <+: requests → P (runFrom dispatch {} es) := by
  constructor
  · rintro h es ⟨rest, hrest⟩
    refine h (es ++ requesting rest) ?_ _ ?_
    · rw [requestsIn_append, requestsIn_requesting, hrest]
    · exact mem_states_iff_prefix.mpr ⟨es, List.prefix_append _ _, rfl⟩
  · intro h es hes t ht
    obtain ⟨first, ⟨rest, rfl⟩, rfl⟩ := mem_states_iff_prefix.mp ht
    apply h
    rw [← hes, requestsIn_append]
    exact List.prefix_append _ _

/-! ## Order under every schedule -/

/-- The first request of each key is kept. -/
def FirstKept (key : α → κ) (requests : List (α × Bool)) : Prop :=
  ∀ before r after, requests = before ++ r :: after → (∀ q ∈ before, key q.1 ≠ key r.1) →
    r.2 = true

/-- The first request of a key. -/
theorem exists_first (key : α → κ) {requests : List (α × Bool)} {r : α × Bool} (hr : r ∈ requests) :
    ∃ before first after, requests = before ++ first :: after ∧ key first.1 = key r.1 ∧
      ∀ q ∈ before, key q.1 ≠ key first.1 := by
  have hfind : (requests.find? fun q => key q.1 = key r.1).isSome := by
    rw [List.find?_isSome]
    exact ⟨r, hr, decide_eq_true rfl⟩
  obtain ⟨first, hfirst⟩ := Option.isSome_iff_exists.mp hfind
  obtain ⟨hkey, before, after, hsplit, hbefore⟩ := List.find?_eq_some_iff_append.mp hfirst
  have hkey : key first.1 = key r.1 := of_decide_eq_true hkey
  refine ⟨before, first, after, hsplit, hkey, ?_⟩
  intro q hq
  rw [hkey]
  simpa using hbefore q hq

theorem valuesAt_concat_request (before : List (α × Bool)) (r : α × Bool) :
    valuesAt key value (key r.1) ((before ++ [r]).map Prod.fst) =
      valuesAt key value (key r.1) (before.map Prod.fst) ++ [value r.1] := by
  rw [List.map_append, List.map_singleton, valuesAt_append, valuesAt_cons_self, valuesAt_nil]

/-- What the first part of some requests launches may all have run, in any order. -/
theorem exists_run_of_split {requests before after : List (α × Bool)} {r : α × Bool}
    (hsplit : requests = before ++ r :: after) {p : List α}
    (hperm : (launchedOf (before ++ [r])).Perm p) :
    ∃ es, requestsIn es <+: requests ∧ runFrom dispatch {} es = ⟨before ++ [r], [], p⟩ := by
  obtain ⟨es, hes, hrun⟩ := exists_runFrom_of_perm hperm
  refine ⟨es, ?_, hrun⟩
  rw [hes, hsplit]
  exact ⟨after, by rw [List.append_assoc, List.singleton_append]⟩

/-- After some requests, whatever they launch may have run, and any of it last. -/
theorem value_eq_of_inOrder {requests before after : List (α × Bool)} {r : α × Bool} {a : α}
    (hsplit : requests = before ++ r :: after)
    (h : ∀ es, requestsIn es <+: requests → (runFrom dispatch {} es).InOrder key value)
    (ha : a ∈ launchedOf (before ++ [r])) (hkey : key a = key r.1) : value a = value r.1 := by
  obtain ⟨front, back, hlaunched⟩ := List.append_of_mem ha
  -- the schedule that runs `a` last
  have hperm : (launchedOf (before ++ [r])).Perm (front ++ back ++ [a]) := by
    rw [hlaunched, List.append_assoc]
    exact List.Perm.append_left front (List.perm_append_singleton a back).symm
  obtain ⟨es, hes, hrun⟩ := exists_run_of_split hsplit hperm
  have hlast := (h es hes (key r.1)).2
  rw [hrun] at hlast
  have hdone : valuesAt key value (key r.1) (front ++ back ++ [a]) =
      valuesAt key value (key r.1) (front ++ back) ++ [value a] := by
    rw [valuesAt_append, valuesAt_cons_of_eq hkey, valuesAt_nil]
  have hsame := hlast fun _ hnone => absurd hnone List.not_mem_nil
  rw [hdone, valuesAt_concat_request, List.getLast?_concat, List.getLast?_concat] at hsame
  exact Option.some.inj hsame

/-- A first request that is lost leaves its key without a value. -/
theorem firstKept_of_inOrder {requests : List (α × Bool)}
    (h : ∀ es, requestsIn es <+: requests → (runFrom dispatch {} es).InOrder key value) :
    FirstKept key requests := by
  intro before r after hsplit hbefore
  by_contra hlost
  obtain ⟨es, hes, hrun⟩ := exists_run_of_split hsplit (List.Perm.refl _)
  have hlast := (h es hes (key r.1)).2
  rw [hrun] at hlast
  have hsame := hlast fun _ hnone => absurd hnone List.not_mem_nil
  have hnothing : valuesAt key value (key r.1) (launchedOf (before ++ [r])) = [] := by
    rw [launchedOf_concat_lost hlost]
    exact valuesAt_eq_nil fun a ha => hbefore (a, true) (mem_launchedOf.mp ha)
  rw [hnothing, valuesAt_concat_request, List.getLast?_concat] at hsame
  cases hsame

/-- All requests of a key have the value of the first one, which may run after any of them. -/
theorem oneValue_of_inOrder {requests : List (α × Bool)}
    (h : ∀ es, requestsIn es <+: requests → (runFrom dispatch {} es).InOrder key value) :
    OneValue key value requests := by
  intro q hq r hr hkey
  obtain ⟨before, first, after, hsplit, hfirstKey, hbefore⟩ := exists_first key hq
  have hkept : first.2 = true := firstKept_of_inOrder h before first after hsplit hbefore
  have hvalue : ∀ r ∈ requests, key first.1 = key r.1 → value first.1 = value r.1 := by
    intro r hr hkey
    rw [hsplit] at hr
    rcases List.mem_append.mp hr with hold | hnew
    · exact absurd hkey.symm (hbefore r hold)
    · rcases List.mem_cons.mp hnew with rfl | hlater
      · rfl
      · obtain ⟨between, last, rfl⟩ := List.append_of_mem hlater
        have hsplit' : requests = (before ++ first :: between) ++ r :: last := by
          rw [hsplit, List.append_assoc, List.cons_append]
        apply value_eq_of_inOrder hsplit' h _ hkey
        rw [mem_launchedOf, ← hkept]
        exact List.mem_append_left _ (List.mem_append_right _ List.mem_cons_self)
  rw [← hvalue q hq hfirstKey, hvalue r hr (hfirstKey.trans hkey)]

omit [DecidableEq κ] in
theorem OneValue.of_prefix {requests front : List (α × Bool)}
    (h : OneValue key value requests) (hfront : front <+: requests) :
    OneValue key value front :=
  fun q hq r hr => h q (hfront.subset hq) r (hfront.subset hr)

/-- The last of some values that are all the same. -/
theorem getLast?_eq_some {l : List β} {v : β} (hv : v ∈ l) (h : ∀ b ∈ l, b = v) :
    l.getLast? = some v := by
  have hne : l ≠ [] := List.ne_nil_of_mem hv
  rw [List.getLast?_eq_some_getLast hne, h _ (List.getLast_mem hne)]

/-- Where the first request of each key is kept, a key that was requested was launched. -/
theorem exists_launched_of_firstKept {requests front : List (α × Bool)}
    (h : FirstKept key requests) (hfront : front <+: requests) {r : α × Bool} (hr : r ∈ front) :
    ∃ a ∈ launchedOf front, key a = key r.1 := by
  obtain ⟨rest, rfl⟩ := hfront
  obtain ⟨before, first, after, rfl, hkey, hbefore⟩ := exists_first key hr
  have hkept : first.2 = true := by
    apply h before first (after ++ rest) _ hbefore
    rw [List.append_assoc, List.cons_append]
  refine ⟨first.1, mem_launchedOf.mpr ?_, hkey⟩
  rw [← hkept]
  exact List.mem_append_right _ List.mem_cons_self

/-- What is launched ends with the value of the last request. -/
theorem getLast?_launched {requests front : List (α × Bool)} (hfirst : FirstKept key requests)
    (hfront : front <+: requests) (hone : OneValue key value front) (k : κ) :
    (valuesAt key value k (launchedOf front)).getLast? =
      (valuesAt key value k (front.map Prod.fst)).getLast? := by
  have hsub : (valuesAt key value k (launchedOf front)).Sublist
      (valuesAt key value k (front.map Prod.fst)) :=
    sublist_valuesAt (launchedOf_sublist front)
  by_cases hasked : ∃ r ∈ front, key r.1 = k
  · -- something of the key was launched, and its value is the only one
    obtain ⟨r, hr, rfl⟩ := hasked
    obtain ⟨a, ha, hkey⟩ := exists_launched_of_firstKept hfirst hfront hr
    have hv : value a ∈ valuesAt key value (key r.1) (launchedOf front) :=
      mem_valuesAt.mpr ⟨a, ha, hkey, rfl⟩
    have hsame : ∀ b ∈ valuesAt key value (key r.1) (front.map Prod.fst), b = value a := by
      intro b hb
      obtain ⟨c, hc, hck, rfl⟩ := mem_valuesAt.mp hb
      obtain ⟨q, hq, rfl⟩ := List.mem_map.mp hc
      exact hone q hq (a, true) (mem_launchedOf.mp ha) (hck.trans hkey.symm)
    rw [getLast?_eq_some hv fun b hb => hsame b (hsub.subset hb),
      getLast?_eq_some (hsub.subset hv) hsame]
  · have hnone : valuesAt key value k (front.map Prod.fst) = [] := by
      apply valuesAt_eq_nil
      intro a ha hk
      obtain ⟨r, hr, rfl⟩ := List.mem_map.mp ha
      exact hasked ⟨r, hr, hk⟩
    rw [hnone] at hsub ⊢
    rw [List.sublist_nil.mp hsub]

/-- **The latest value under every schedule.** In every state of every run the values of each key
    are in order, and the last one is the latest when none is in flight, exactly when the first
    request of each key is kept and all requests of a key have one value. -/
theorem inOrder_all_iff (requests : List (α × Bool)) :
    (∀ es, requestsIn es = requests → ∀ t ∈ states dispatch {} es, t.InOrder key value) ↔
      FirstKept key requests ∧ OneValue key value requests := by
  rw [forall_states_requests_iff]
  constructor
  · intro h
    exact ⟨firstKept_of_inOrder h, oneValue_of_inOrder h⟩
  · rintro ⟨hfirst, hone⟩ es hes k
    have hone' : OneValue key value (requestsIn es) := hone.of_prefix hes
    obtain ⟨hsublist, hall⟩ := sublist_runFrom_of_oneValue hone' k
    have hrequested : (runFrom dispatch {} es).requested = requestsIn es := requested_runFrom {} es
    rw [hrequested]
    refine ⟨hsublist, ?_⟩
    intro hidle
    rw [hall hidle]
    exact getLast?_launched hfirst hes hone' k

/-- Where all values arrive, no request is lost. -/
theorem kept_of_inFull {requests : List (α × Bool)}
    (h : ∀ es, requestsIn es <+: requests → (runFrom dispatch {} es).InFull key value) :
    ∀ r ∈ requests, r.2 = true := by
  intro r hr
  by_contra hlost
  obtain ⟨before, after, hsplit⟩ := List.append_of_mem hr
  -- what the requests up to the lost one launch is what those before it launch
  obtain ⟨es, hes, hrun⟩ := exists_run_of_split hsplit (List.Perm.refl _)
  have hall := (h es hes (key r.1)).2
  rw [hrun] at hall
  have hsame := hall fun _ hnone => absurd hnone List.not_mem_nil
  have hlength : (valuesAt key value (key r.1) (launchedOf before)).length ≤
      (valuesAt key value (key r.1) (before.map Prod.fst)).length :=
    (sublist_valuesAt (launchedOf_sublist before)).length_le
  rw [launchedOf_concat_lost hlost, valuesAt_concat_request] at hsame
  rw [hsame, List.length_append, List.length_singleton] at hlength
  omega

/-- **All values under every schedule.** In every state of every run the values of each key are in
    order, and are all there when none is in flight, exactly when every request is kept and all
    requests of a key have one value. -/
theorem inFull_all_iff (requests : List (α × Bool)) :
    (∀ es, requestsIn es = requests → ∀ t ∈ states dispatch {} es, t.InFull key value) ↔
      (∀ r ∈ requests, r.2 = true) ∧ OneValue key value requests := by
  rw [forall_states_requests_iff]
  constructor
  · intro h
    exact ⟨kept_of_inFull h, oneValue_of_inOrder fun es hes => (h es hes).inOrder⟩
  · rintro ⟨hkept, hone⟩ es hes k
    obtain ⟨hsublist, hall⟩ := sublist_runFrom_of_oneValue (hone.of_prefix hes) k
    have hrequested : (runFrom dispatch {} es).requested = requestsIn es := requested_runFrom {} es
    rw [launchedOf_of_kept fun r hr => hkept r (hes.subset hr)] at hall
    rw [hrequested]
    exact ⟨hsublist, hall⟩

end Keys

end NunchukSdk.Foundation
