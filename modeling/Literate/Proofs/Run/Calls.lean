import Mathlib
import Literate.Proofs.Action
import Literate.Proofs.Run.Reservation
import Literate.Run.Execute

/-!
# Any number of calls of one executor

A call looks its block up, checks and reserves its key in one go, runs the block and releases the key,
whatever the run came to.  Calls of one executor take these steps in any order.  At every moment the
keys in flight are those of the runs that were accepted and not released yet: a call that is turned
away changes nothing, and a release takes out the key of its own run and no other.

* `Executor.perform_executeDuring_of_rejection`, `Executor.perform_executeDuring_of_accepted`: what
  a call is told, and what it does when it is accepted.
* `Move`: one step of one call; `History` are any number of them in any order.
* `Reserved`: what holds of the keys in flight at every moment.
* `History.reserved`: it does.
-/

namespace Literate.Run

open Text

/-! ## One call -/

/-- A call of an executor: a block of a document is to run. -/
structure Call where
  text : Text
  block : Text

namespace Call

/-- What the run is known by. -/
def key (c : Call) : Key := (documentHash c.text, c.block)

/-- The block that is to run, or why there is none. -/
def lookUp (c : Call) : Except Failure (Outline × Block) :=
  match Outline.parse c.text with
  | .error e => .error (.parse e)
  | .ok o =>
    match o.findBlock? c.block with
    | none => .error (.execution (.notFound c.block))
    | some b => .ok (o, b)

/-- The world in which the document was read: what is odd about it has been said. -/
def read (c : Call) (w : World) : World :=
  match Outline.parse c.text with
  | .error _ => w
  | .ok o => { w with log := w.log ++ o.warnings }

/-- The failure of a call whose key is in flight. -/
def busy (c : Call) : Failure := .execution (.busy c.block)

/-- What the call is told while some runs are under way: why it is turned away, if it is. -/
def rejection? (c : Call) (inFlight : InFlight Key) : Option Failure :=
  match c.lookUp with
  | .error e => some e
  | .ok _ => if c.key ∈ inFlight.keys then some c.busy else none

theorem perform_find (c : Call) (w : World) :
    (Executor.find c.text c.block).perform w = (c.lookUp, c.read w) := by
  unfold Executor.find lookUp read
  rw [Action.perform_bind]
  cases hparse : Outline.parse c.text with
  | error e => simp only [Action.outline, hparse]; rfl
  | ok o =>
    have houtline : (Action.outline c.text).perform w =
        (.ok o, { w with log := w.log ++ o.warnings }) := by
      simp only [Action.outline, hparse]
      rfl
    rw [houtline]
    dsimp only
    cases o.findBlock? c.block <;> rfl

end Call

/-- A call that is turned away does nothing but warn about its document. -/
theorem Executor.perform_executeDuring_of_rejection (x : Executor) {inFlight : InFlight Key}
    {c : Call} {f : Failure} (hc : c.rejection? inFlight = some f) {r : Request}
    (hr : r.block = c.block) (w : World) :
    (x.executeDuring inFlight c.text r).perform w = (.error f, c.read w) := by
  unfold executeDuring
  rw [hr, Action.perform_bind, c.perform_find]
  unfold Call.rejection? at hc
  cases hfound : c.lookUp with
  | error e =>
    rw [hfound] at hc
    rw [Option.some.inj hc]
  | ok found =>
    rw [hfound] at hc
    dsimp only at hc
    split_ifs at hc with hkey
    have hreserve : inFlight.reserve? (documentHash c.text, c.block) = none :=
      InFlight.reserve?_of_mem hkey
    rw [← Option.some.inj hc]
    simp only [hreserve]
    rfl

/-- A call that is accepted runs its block. -/
theorem Executor.perform_executeDuring_of_accepted (x : Executor) {inFlight : InFlight Key}
    {c : Call} (hc : c.rejection? inFlight = none) {r : Request} (hr : r.block = c.block)
    (w : World) :
    ∃ o b, c.lookUp = .ok (o, b) ∧
      (x.executeDuring inFlight c.text r).perform w = (x.runBlock o b r).perform (c.read w) := by
  unfold executeDuring
  rw [hr, Action.perform_bind, c.perform_find]
  unfold Call.rejection? at hc
  cases hfound : c.lookUp with
  | error e =>
    rw [hfound] at hc
    cases hc
  | ok found =>
    rw [hfound] at hc
    dsimp only at hc
    split_ifs at hc with hkey
    have hreserve : inFlight.reserve? (documentHash c.text, c.block) = _ :=
      InFlight.reserve?_of_notMem hkey
    refine ⟨found.1, found.2, rfl, ?_⟩
    simp only [hreserve]

/-! ## The steps of all calls -/

/-- How far a call is. -/
inductive Progress
  | waiting
  | running
  /-- The run is over, with its result or with what went wrong, and its key is still in flight. -/
  | ended (r : Except Failure RunResult)
  | answered (r : Except Failure RunResult)

/-- Whether the call has a key in flight. -/
@[simp] def Progress.IsOpen : Progress → Prop
  | waiting => False
  | running => True
  | ended _ => True
  | answered _ => False

/-- What a call did. -/
inductive Event
  | rejected (i : ℕ) (e : Failure)
  | accepted (i : ℕ)
  | ended (i : ℕ) (r : Except Failure RunResult)
  | released (i : ℕ)

/-- The call that did it. -/
def Event.call : Event → ℕ
  | rejected i _ => i
  | accepted i => i
  | ended i _ => i
  | released i => i

/-- An executor and all its calls. -/
structure Calls where
  runs : Runs Key
  progress : ℕ → Progress

namespace Calls

/-- No call has done anything. -/
def start : Calls := ⟨.start, fun _ => .waiting⟩

/-- The call `i` has come so far. -/
def advance (s : Calls) (i : ℕ) (runs : Runs Key) (p : Progress) : Calls :=
  ⟨runs, Function.update s.progress i p⟩

@[simp] theorem runs_advance (s : Calls) (i : ℕ) (runs : Runs Key) (p : Progress) :
    (s.advance i runs p).runs = runs := rfl

@[simp] theorem progress_advance (s : Calls) (i : ℕ) (runs : Runs Key) (p : Progress) :
    (s.advance i runs p).progress i = p := Function.update_self ..

theorem progress_advance_of_ne {i j : ℕ} (h : j ≠ i) (s : Calls) (runs : Runs Key)
    (p : Progress) : (s.advance i runs p).progress j = s.progress j := Function.update_of_ne h ..

end Calls

/-- One step of one call.  A run may come to anything. -/
inductive Move (c : ℕ → Call) (s : Calls) : Event → Calls → Prop
  | refuse {i : ℕ} {e : Failure} (hi : s.progress i = .waiting) (he : (c i).lookUp = .error e) :
      Move c s (.rejected i e) (s.advance i (s.runs.step (.request i none)) (.answered (.error e)))
  | decline {i : ℕ} {found : Outline × Block} (hi : s.progress i = .waiting)
      (hfound : (c i).lookUp = .ok found)
      (hbusy : (s.runs.request i (some (c i).key)).2 = .busy) :
      Move c s (.rejected i (c i).busy)
        (s.advance i (s.runs.step (.request i (some (c i).key))) (.answered (.error (c i).busy)))
  | accept {i : ℕ} {found : Outline × Block} (hi : s.progress i = .waiting)
      (hfound : (c i).lookUp = .ok found)
      (haccepted : (s.runs.request i (some (c i).key)).2 = .accepted) :
      Move c s (.accepted i) (s.advance i (s.runs.step (.request i (some (c i).key))) .running)
  | finish {i : ℕ} (r : Except Failure RunResult) (hi : s.progress i = .running) :
      Move c s (.ended i r) (s.advance i s.runs (.ended r))
  | release {i : ℕ} {r : Except Failure RunResult} (hi : s.progress i = .ended r) :
      Move c s (.released i) (s.advance i (s.runs.step (.finish i)) (.answered r))

/-- What all calls have done so far, and where that has led. -/
inductive History (c : ℕ → Call) : List Event → Calls → Prop
  | start : History c [] .start
  | move {events : List Event} {s s' : Calls} {e : Event} (h : History c events s)
    (hmove : Move c s e s') : History c (events ++ [e]) s'

variable {c : ℕ → Call} {s s' : Calls} {events : List Event} {e : Event} {i j : ℕ}

/-! ## What one step keeps -/

/-- The shared state fits how far the calls are: the active runs are those of the open calls. -/
structure Calls.Fits (c : ℕ → Call) (s : Calls) : Prop where
  sound : s.runs.Sound
  mem_active_iff : ∀ i k, (i, k) ∈ s.runs.active ↔ (s.progress i).IsOpen ∧ k = (c i).key

namespace Calls.Fits

theorem start : Fits c start := ⟨.start, fun i k => by simp [Calls.start, Runs.start]⟩

/-- A step of a call that leaves the active runs alone. -/
theorem advance (h : Fits c s) {p : Progress} (hp : p.IsOpen ↔ (s.progress i).IsOpen) :
    Fits c (s.advance i s.runs p) := by
  refine ⟨h.sound, fun j k => ?_⟩
  rw [runs_advance, h.mem_active_iff]
  by_cases hj : j = i
  · rw [hj, progress_advance, hp]
  · rw [progress_advance_of_ne hj]

theorem accept (h : Fits c s) (hi : s.progress i = .waiting)
    (hkey : (c i).key ∉ s.runs.inFlight.keys) :
    Fits c (s.advance i (s.runs.step (.request i (some (c i).key))) .running) := by
  refine ⟨h.sound.request i _, fun j k => ?_⟩
  rw [runs_advance, Runs.step, Runs.request_of_notMem hkey]
  dsimp only
  rw [List.mem_cons, Prod.mk.injEq, h.mem_active_iff]
  by_cases hj : j = i
  · simp [hj, hi]
  · simp [hj, progress_advance_of_ne hj]

/-- A release takes out the key of its own run and no other. -/
theorem release (h : Fits c s) {r : Except Failure RunResult} (hi : s.progress i = .ended r) :
    Fits c (s.advance i (s.runs.step (.finish i)) (.answered r)) := by
  have hopen : (i, (c i).key) ∈ s.runs.active := (h.mem_active_iff _ _).mpr ⟨by simp [hi], rfl⟩
  have hone : ∀ k, (i, k) ∈ s.runs.active → k = (c i).key :=
    fun k hk => ((h.mem_active_iff _ _).mp hk).2
  refine ⟨h.sound.finish i, fun j k => ?_⟩
  rw [runs_advance, Runs.step, h.sound.finish_eq hopen hone, List.mem_filter, decide_eq_true_iff,
    h.mem_active_iff]
  by_cases hj : j = i
  · simp +contextual [hj]
  · rw [progress_advance_of_ne hj]
    refine ⟨And.left, fun hk => ⟨hk, fun heq => hj ?_⟩⟩
    -- another run with this key would be the same run
    obtain rfl : k = (c i).key := heq
    exact h.sound.eq_of_mem ((h.mem_active_iff _ _).mpr hk) hopen

end Calls.Fits

/-- A call that is turned away leaves the shared state as it is. -/
theorem Move.runs_rejected {f : Failure} (hmove : Move c s (.rejected i f) s') :
    s'.runs = s.runs := by
  cases hmove with
  | refuse hi he => rfl
  | decline hi hfound hbusy =>
    by_cases hkey : (c i).key ∈ s.runs.inFlight.keys
    · exact congrArg Prod.fst (Runs.request_of_mem hkey i)
    · rw [Runs.request_of_notMem hkey] at hbusy
      cases hbusy

theorem Calls.Fits.move (h : Fits c s) (hmove : Move c s e s') : Fits c s' := by
  cases hmove with
  | refuse hi he => exact h.advance (by simp [hi])
  | @decline i found hi hfound hbusy =>
    have hruns : s.runs.step (.request i (some (c i).key)) = s.runs :=
      (Move.decline hi hfound hbusy).runs_rejected
    rw [hruns]
    exact h.advance (by simp [hi])
  | @accept i found hi hfound haccepted =>
    refine h.accept hi fun hkey => ?_
    rw [Runs.request_of_mem hkey] at haccepted
    cases haccepted
  | finish r hi => exact h.advance (by simp [hi])
  | release hi => exact h.release hi

/-! ## What was done and how far the calls are -/

/-- The run of the call was accepted and its key was not released yet. -/
def Unreleased (events : List Event) (i : ℕ) : Prop :=
  .accepted i ∈ events ∧ .released i ∉ events

/-- What a call has done when it has come so far. -/
def Progress.Records (events : List Event) (i : ℕ) : Progress → Prop
  | waiting => .accepted i ∉ events ∧ .released i ∉ events
  | running => Unreleased events i
  | ended _ => Unreleased events i
  | answered _ => .accepted i ∈ events → .released i ∈ events

theorem Progress.Records.unreleased_iff {p : Progress} (h : p.Records events i) :
    Unreleased events i ↔ p.IsOpen := by
  cases p with
  | waiting => exact iff_of_false (fun hu => h.1 hu.1) not_false
  | running => exact iff_of_true h trivial
  | ended r => exact iff_of_true h trivial
  | answered r => exact iff_of_false (fun hu => hu.2 (h hu.1)) not_false

/-- Only the call itself changes what it has done. -/
theorem Progress.Records.concat {p : Progress} (h : p.Records events i) (hi : i ≠ e.call) :
    p.Records (events ++ [e]) i := by
  have haccepted : .accepted i ∈ events ++ [e] ↔ .accepted i ∈ events := by
    rw [List.mem_append, List.mem_singleton, or_iff_left]
    rintro rfl
    exact hi rfl
  have hreleased : .released i ∈ events ++ [e] ↔ .released i ∈ events := by
    rw [List.mem_append, List.mem_singleton, or_iff_left]
    rintro rfl
    exact hi rfl
  cases p <;> simpa only [Records, Unreleased, haccepted, hreleased] using h

/-- A step changes how far its own call is, and no other. -/
theorem Move.progress_eq (hmove : Move c s e s') (hj : j ≠ e.call) :
    s'.progress j = s.progress j := by
  cases hmove <;> exact Calls.progress_advance_of_ne hj ..

theorem Move.records (hmove : Move c s e s') (h : (s.progress e.call).Records events e.call) :
    (s'.progress e.call).Records (events ++ [e]) e.call := by
  cases hmove with
  | refuse hi he =>
    rw [Event.call, hi] at h
    simp [Event.call, Progress.Records, h.1]
  | decline hi hfound hbusy =>
    rw [Event.call, hi] at h
    simp [Event.call, Progress.Records, h.1]
  | accept hi hfound haccepted =>
    rw [Event.call, hi] at h
    simp [Event.call, Progress.Records, Unreleased, h.2]
  | finish r hi =>
    rw [Event.call, hi] at h
    simpa [Event.call, Progress.Records, Unreleased] using h
  | release hi => simp [Event.call, Progress.Records]

namespace History

theorem fits (h : History c events s) : s.Fits c := by
  induction h with
  | start => exact .start
  | move _ hmove ih => exact ih.move hmove

theorem records (h : History c events s) (i : ℕ) : (s.progress i).Records events i := by
  induction h with
  | start => simp [Calls.start, Progress.Records]
  | @move events s s' e _ hmove ih =>
    by_cases hi : i = e.call
    · rw [hi] at ih ⊢
      exact hmove.records ih
    · rw [hmove.progress_eq hi]
      exact ih.concat hi

end History

/-! ## What a waiting call is told -/

/-- The next step of a waiting call: it is turned away, or accepted. -/
def Call.verdict (c : Call) (i : ℕ) (inFlight : InFlight Key) : Event :=
  match c.rejection? inFlight with
  | some f => .rejected i f
  | none => .accepted i

theorem Move.eq_verdict (hmove : Move c s e s') (hi : s.progress e.call = .waiting) :
    e = (c e.call).verdict e.call s.runs.inFlight := by
  cases hmove with
  | refuse _ he => simp [Call.verdict, Call.rejection?, Event.call, he]
  | @decline i found _ hfound hbusy =>
    have hkey : (c i).key ∈ s.runs.inFlight.keys := by
      by_contra hkey
      rw [Runs.request_of_notMem hkey] at hbusy
      cases hbusy
    simp [Call.verdict, Call.rejection?, Event.call, hfound, hkey]
  | @accept i found _ hfound haccepted =>
    have hkey : (c i).key ∉ s.runs.inFlight.keys := by
      intro hkey
      rw [Runs.request_of_mem hkey] at haccepted
      cases haccepted
    simp [Call.verdict, Call.rejection?, Event.call, hfound, hkey]
  | finish r hrun => rw [Event.call, hrun] at hi; cases hi
  | release hrun => rw [Event.call, hrun] at hi; cases hi

theorem exists_move_of_waiting (hi : s.progress i = .waiting) :
    ∃ s', Move c s ((c i).verdict i s.runs.inFlight) s' := by
  cases hfound : (c i).lookUp with
  | error f =>
    simp only [Call.verdict, Call.rejection?, hfound]
    exact ⟨_, .refuse hi hfound⟩
  | ok found =>
    by_cases hkey : (c i).key ∈ s.runs.inFlight.keys
    · simp only [Call.verdict, Call.rejection?, hfound, if_pos hkey]
      exact ⟨_, .decline hi hfound (by rw [Runs.request_of_mem hkey])⟩
    · simp only [Call.verdict, Call.rejection?, hfound, if_neg hkey]
      exact ⟨_, .accept hi hfound (by rw [Runs.request_of_notMem hkey])⟩

/-! ## The keys in flight -/

/-- What holds of the keys in flight after any calls have done what they did. -/
structure Reserved (c : ℕ → Call) (events : List Event) (s : Calls) : Prop where
  /-- They are those of the runs that were accepted and not released. -/
  mem_keys_iff : ∀ k, k ∈ s.runs.inFlight.keys ↔ ∃ i, Unreleased events i ∧ (c i).key = k
  /-- No two such runs have the same key. -/
  distinct : ∀ i j, Unreleased events i → Unreleased events j → (c i).key = (c j).key → i = j
  nodup : s.runs.inFlight.keys.Nodup
  /-- A waiting call can take one step: it is refused when there is no such block or the document
  cannot be read, else turned away as busy when its key is in flight, else accepted. -/
  answers : ∀ i, s.progress i = .waiting → ∀ e, e.call = i →
    ((∃ s', Move c s e s') ↔ e = (c i).verdict i s.runs.inFlight)
  /-- A call for a run that is under way is turned away as busy. -/
  busy : ∀ i j found, (c i).lookUp = .ok found → Unreleased events j → (c i).key = (c j).key →
    (c i).verdict i s.runs.inFlight = .rejected i (.execution (.busy (c i).block))
  /-- This is what an executor tells a call for the block, and a call that is accepted runs it. -/
  told : ∀ (x : Executor) i (r : Request) w, r.block = (c i).block →
    match (c i).verdict i s.runs.inFlight with
    | .rejected _ f =>
      (x.executeDuring s.runs.inFlight (c i).text r).perform w = (.error f, (c i).read w)
    | _ => ∃ o b, (c i).lookUp = .ok (o, b) ∧
      (x.executeDuring s.runs.inFlight (c i).text r).perform w =
        (x.runBlock o b r).perform ((c i).read w)
  /-- A call that is turned away leaves the keys as they are. -/
  unchanged : ∀ i f s', Move c s (.rejected i f) s' → s'.runs.inFlight = s.runs.inFlight
  /-- When every accepted run was released, no key is left. -/
  empty : (∀ i, .accepted i ∈ events → .released i ∈ events) → s.runs.inFlight = .empty

/-- **One run at a time for each block, and no reservation is lost or left behind.**  This holds for
any calls of one executor after any steps of theirs, in any order, whatever the runs come to. -/
theorem History.reserved (h : History c events s) : Reserved c events s := by
  have hactive : ∀ i k, (i, k) ∈ s.runs.active ↔ Unreleased events i ∧ (c i).key = k := by
    intro i k
    rw [h.fits.mem_active_iff, (h.records i).unreleased_iff, eq_comm]
  have hkeys : ∀ k, k ∈ s.runs.inFlight.keys ↔ ∃ i, Unreleased events i ∧ (c i).key = k := by
    intro k
    rw [h.fits.sound.mem_keys_iff]
    exact exists_congr fun i => hactive i k
  refine ⟨hkeys, ?_, h.fits.sound.nodup, ?_, ?_, ?_,
    fun i f s' hmove => by rw [hmove.runs_rejected], ?_⟩
  · intro i j hi hj hkey
    exact h.fits.sound.eq_of_mem ((hactive i _).mpr ⟨hi, rfl⟩) ((hactive j _).mpr ⟨hj, hkey.symm⟩)
  · rintro i hi e rfl
    constructor
    · rintro ⟨s', hmove⟩
      exact hmove.eq_verdict hi
    · intro he
      rw [he]
      exact exists_move_of_waiting hi
  · intro i j found hfound hj hkey
    have hbusy : (c i).key ∈ s.runs.inFlight.keys := (hkeys _).mpr ⟨j, hj, hkey.symm⟩
    simp only [Call.verdict, Call.rejection?, hfound, if_pos hbusy]
    rfl
  · intro x i r w hr
    unfold Call.verdict
    cases hc : (c i).rejection? s.runs.inFlight with
    | some f => exact x.perform_executeDuring_of_rejection hc hr w
    | none => exact x.perform_executeDuring_of_accepted hc hr w
  · intro hall
    have hnone : s.runs.inFlight.keys = [] := by
      rw [List.eq_nil_iff_forall_not_mem]
      intro k hk
      obtain ⟨i, hi, -⟩ := (hkeys k).mp hk
      exact hi.2 (hall i hi.1)
    exact congrArg InFlight.mk hnone

/-- A block is asked for twice, a second time while it runs; a call for a block that is not there and
one for a document that cannot be read are turned away too; the run is cancelled and released. -/
theorem History.reserved_cancelled :
    let t := "```sh a\nx\n```\n".toList
    let c : ℕ → Call := fun i =>
      if i < 2 then ⟨t, ['a']⟩ else if i = 2 then ⟨t, ['b']⟩ else ⟨"```\n".toList, ['a']⟩
    let before : List Event := [.accepted 0, .rejected 1 (.execution (.busy ['a'])),
      .rejected 2 (.execution (.notFound ['b'])), .rejected 3 (.parse (.unclosed 1))]
    let after : List Event :=
      before ++ [.ended 0 (.error (.execution (.cancelled ['a'])))] ++ [.released 0]
    (∃ s, History c before s ∧ Reserved c before s ∧ (c 0).key ∈ s.runs.inFlight.keys) ∧
      ∃ s, History c after s ∧ s.runs.inFlight = .empty := by
  intro t c before after
  let b : Block := ⟨1, 3, "```".toList, ⟨"sh".toList, some ['a'], none, [], [], false, false⟩, [['x']]⟩
  let o : Outline := ⟨3, [.block b], [⟨1, [], .implicit⟩]⟩
  have h0 : (c 0).lookUp = .ok (o, b) := by decide +kernel
  have h1 : (c 1).lookUp = .ok (o, b) := h0
  have h2 : (c 2).lookUp = .error (.execution (.notFound ['b'])) := by decide +kernel
  have h3 : (c 3).lookUp = .error (.parse (.unclosed 1)) := by decide +kernel
  have hstart : History c [] .start := .start
  have haccepted := hstart.move (.accept (i := 0) rfl h0 rfl)
  have hbusy := haccepted.move (.decline (i := 1) rfl h1
    (by rw [Runs.request_of_mem]; exact List.mem_singleton.mpr rfl))
  have hbefore := (hbusy.move (.refuse (i := 2) rfl h2)).move (.refuse (i := 3) rfl h3)
  have hended := hbefore.move (.finish (i := 0) (.error (.execution (.cancelled ['a']))) rfl)
  have hafter := hended.move (.release (i := 0) rfl)
  refine ⟨⟨_, hbefore, hbefore.reserved, ?_⟩, _, hafter, hafter.reserved.empty fun i hi => ?_⟩
  · exact (hbefore.reserved.mem_keys_iff _).mpr ⟨0, by simp [Unreleased], rfl⟩
  · simpa using hi

end Literate.Run
