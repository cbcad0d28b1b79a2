import SyncedFile.Surroundings

/-!
# Runs that come to a result

What a run has done where it has come to a result, one lemma for each way of putting runs together.

* `bind_eq_ok` — one run after the other;
* `ofFailure_eq_ok`, `ofMisuse_eq_ok`, `ofFault_eq_ok` — results taken over;
* `emitAll_run`, `record_run`, `get_run` — events, calls and the surroundings themselves;
* `Records`, `Follows` — the calls that a run makes, whatever comes of it, and their order;
* `FailsOnly` — the failures that a run ends in;
* `SeesFiles` — runs for which it does not matter what has been called before.
-/

namespace SyncedFile.Run

variable {α β : Type} {s t : Surroundings}

theorem bind_run {ε σ : Type} (x : ExceptT ε (StateM σ) α) (f : α → ExceptT ε (StateM σ) β)
    (s : σ) :
    (x >>= f).run s =
      match x.run s with
      | (.ok a, between) => (f a).run between
      | (.error fault, between) => (.error fault, between) := by
  simp only [bind, ExceptT.bind, ExceptT.run, ExceptT.mk, ExceptT.bindCont, StateT.bind]
  rcases (x : StateM σ (Except ε α)) s with ⟨fault | a, between⟩ <;> rfl

theorem bind_eq_ok {x : Run α} {f : α → Run β} {b : β} :
    (x >>= f).run s = (.ok b, t) ↔
      ∃ a between, x.run s = (.ok a, between) ∧ (f a).run between = (.ok b, t) := by
  rw [bind_run]
  constructor
  · intro given
    split at given
    · next a between first => exact ⟨a, between, first, given⟩
    · cases given
  · rintro ⟨a, between, first, second⟩
    rw [first]
    exact second

theorem bind_eq_error {x : Run α} {f : α → Run β} {fault : Fault} :
    (x >>= f).run s = (.error fault, t) ↔
      x.run s = (.error fault, t) ∨
        ∃ a between, x.run s = (.ok a, between) ∧ (f a).run between = (.error fault, t) := by
  rw [bind_run]
  constructor
  · intro given
    split at given
    · next a between first => exact .inr ⟨a, between, first, given⟩
    · next other between first =>
      cases given
      exact .inl first
  · rintro (first | ⟨a, between, first, second⟩)
    · rw [first]
    · rw [first]
      exact second

theorem fail_bind (failure : Failure) (f : α → Run β) : (fail failure >>= f) = fail failure := rfl

theorem pure_eq_ok {a b : α} : (pure a : Run α).run s = (.ok b, t) ↔ a = b ∧ s = t := by
  show ((.ok a, s) : Except Fault α × Surroundings) = _ ↔ _
  simp

theorem ofFailure_eq_ok {result : Except Failure α} {a : α} :
    (ofFailure result).run s = (.ok a, t) ↔ result = .ok a ∧ s = t := by
  cases result with
  | ok b => rw [ofFailure, pure_eq_ok, Except.ok.injEq]
  | error failure => exact ⟨fun given => (by cases given), fun given => (by cases given.1)⟩

theorem ofMisuse_eq_ok {result : Except Misuse α} {a : α} :
    (ofMisuse result).run s = (.ok a, t) ↔ result = .ok a ∧ s = t := by
  cases result with
  | ok b => rw [ofMisuse, pure_eq_ok, Except.ok.injEq]
  | error m => exact ⟨fun given => (by cases given), fun given => (by cases given.1)⟩

theorem ofFault_eq_ok {result : Except Fault α} {a : α} :
    (ofFault result).run s = (.ok a, t) ↔ result = .ok a ∧ s = t := by
  cases result with
  | ok b => rw [ofFault, pure_eq_ok, Except.ok.injEq]
  | error fault => exact ⟨fun given => (by cases given), fun given => (by cases given.1)⟩

theorem ofFailure_ok_run (a : α) (s : Surroundings) :
    (ofFailure (.ok a)).run s = (.ok a, s) := rfl

theorem ofMisuse_ok_run (a : α) (s : Surroundings) :
    (ofMisuse (.ok a)).run s = (.ok a, s) := rfl

theorem get_run (s : Surroundings) : (get : Run Surroundings).run s = (.ok s, s) := rfl

theorem emitAll_run (events : List Log.Event) (s : Surroundings) :
    (emitAll events).run s = (.ok (), { s with events := s.events ++ events }) := rfl

theorem emit_run (event : Log.Event) (s : Surroundings) :
    (emit event).run s = (.ok (), { s with events := s.events ++ [event] }) := rfl

theorem record_run (call : Call) (s : Surroundings) :
    (record call).run s = (.ok (), { s with calls := s.calls ++ [call] }) := rfl

theorem run_eq_of_toOption {x : Run α} {a : α} (given : (x.run s).1.toOption = some a) :
    x.run s = (.ok a, (x.run s).2) := by
  rcases ran : x.run s with ⟨fault | b, after⟩
  · rw [ran] at given
    cases given
  · rw [ran] at given
    rw [Option.some.inj given]

/-- Where something can be shown of a result, there is one. -/
theorem exists_ok_of_map {ε : Type} {outcome : Except ε α} {part : α → β} {b : β}
    (shown : outcome.toOption.map part = some b) : ∃ a, outcome = .ok a ∧ part a = b := by
  obtain ⟨a, result, rfl⟩ := Option.map_eq_some_iff.1 shown
  cases outcome with
  | error fault => cases result
  | ok _ => exact ⟨_, congrArg Except.ok (Option.some.inj result), rfl⟩

theorem fail_ne_ok {failure : Failure} {a : α} : (fail failure : Run α).run s ≠ (.ok a, t) :=
  fun given => by cases given

/-! ## Calls of a run -/

/-- The run makes calls of one kind only. They are recorded after those made before it. -/
def Records (kind : Call → Prop) (x : Run α) : Prop :=
  ∀ s, ∃ made, (x.run s).2.calls = s.calls ++ made ∧ ∀ call ∈ made, kind call

/-- The run makes calls in a given order: as far as it comes, and all of them where it returns. -/
def Follows (order : List Call) (x : Run α) : Prop :=
  ∀ s, ∃ made, (x.run s).2.calls = s.calls ++ made ∧ made <+: order ∧
    ∀ a, (x.run s).1 = .ok a → made = order

namespace Follows

variable {order : List Call}

theorem of_calls_eq {x : Run α} (same : ∀ s, (x.run s).2.calls = s.calls) : Follows [] x :=
  fun s => ⟨[], (same s).trans (List.append_nil _).symm, List.nil_prefix, fun _ _ => rfl⟩

theorem pure (a : α) : Follows [] (pure a) :=
  of_calls_eq fun _ => rfl

theorem fail (failure : Failure) : Follows order (fail failure : Run α) :=
  fun _ => ⟨[], (List.append_nil _).symm, List.nil_prefix, fun _ given => by cases given⟩

theorem ofFailure (result : Except Failure α) : Follows [] (ofFailure result) :=
  of_calls_eq fun _ => by cases result <;> rfl

theorem ofMisuse (result : Except Misuse α) : Follows [] (ofMisuse result) :=
  of_calls_eq fun _ => by cases result <;> rfl

theorem get : Follows [] get :=
  of_calls_eq fun _ => rfl

theorem emitAll (events : List Log.Event) : Follows [] (emitAll events) :=
  of_calls_eq fun _ => rfl

theorem record (call : Call) : Follows [call] (record call) :=
  fun _ => ⟨[call], rfl, List.prefix_rfl, fun _ _ => rfl⟩

theorem bind {x : Run α} {f : α → Run β} {more : List Call} (first : Follows order x)
    (next : ∀ a, Follows more (f a)) : Follows (order ++ more) (x >>= f) := by
  intro s
  obtain ⟨made, calls, partly, whole⟩ := first s
  rw [bind_run]
  rcases ran : x.run s with ⟨fault | a, between⟩ <;> rw [ran] at calls whole
  · exact ⟨made, calls, partly.trans (List.prefix_append _ _), fun _ given => by cases given⟩
  · -- The first run has returned, so all its calls stand before those of the second.
    obtain rfl := whole a rfl
    obtain ⟨others, otherCalls, otherPartly, otherWhole⟩ := next a between
    refine ⟨made ++ others, ?_, (List.prefix_append_right_inj made).2 otherPartly, ?_⟩
    · rw [← List.append_assoc, ← calls]
      exact otherCalls
    · exact fun b given => congrArg (made ++ ·) (otherWhole b given)

theorem bind_silent {x : Run α} {f : α → Run β} (first : Follows order x)
    (next : ∀ a, Follows [] (f a)) : Follows order (x >>= f) := by
  have whole := first.bind next
  rwa [List.append_nil] at whole

theorem records {x : Run α} {kind : Call → Prop} (follows : Follows order x)
    (allowed : ∀ call ∈ order, kind call) : Records kind x := by
  intro s
  obtain ⟨made, calls, partly, -⟩ := follows s
  exact ⟨made, calls, fun call mem => allowed call (partly.subset mem)⟩

end Follows

/-! ## Failures of a run -/

/-- Every failure that the run ends in is allowed. A misuse is no failure. -/
def FailsOnly (allowed : Failure → Prop) (x : Run α) : Prop :=
  ∀ s failure, (x.run s).1 = .error (.failure failure) → allowed failure

namespace FailsOnly

variable {allowed : Failure → Prop}

theorem of_ok {x : Run α} (succeeds : ∀ s, ∃ a, (x.run s).1 = .ok a) : FailsOnly allowed x := by
  intro s failure failed
  obtain ⟨a, ok⟩ := succeeds s
  rw [ok] at failed
  cases failed

theorem pure (a : α) : FailsOnly allowed (pure a) :=
  of_ok fun _ => ⟨a, rfl⟩

theorem fail {failure : Failure} (own : allowed failure) :
    FailsOnly allowed (fail failure : Run α) := by
  rintro s _ ⟨⟩
  exact own

theorem ofFailure {result : Except Failure α}
    (own : ∀ failure, result = .error failure → allowed failure) :
    FailsOnly allowed (ofFailure result) := by
  cases result with
  | ok a => exact .pure a
  | error failure => exact .fail (own failure rfl)

theorem ofMisuse (result : Except Misuse α) : FailsOnly allowed (ofMisuse result) := by
  cases result with
  | ok a => exact .pure a
  | error m => exact fun _ _ failed => nomatch failed

theorem get : FailsOnly allowed get :=
  of_ok fun s => ⟨s, rfl⟩

theorem emitAll (events : List Log.Event) : FailsOnly allowed (emitAll events) :=
  of_ok fun _ => ⟨(), rfl⟩

theorem record (call : Call) : FailsOnly allowed (record call) :=
  of_ok fun _ => ⟨(), rfl⟩

theorem bind {x : Run α} {f : α → Run β} (first : FailsOnly allowed x)
    (next : ∀ s a t, x.run s = (.ok a, t) → FailsOnly allowed (f a)) :
    FailsOnly allowed (x >>= f) := by
  intro s failure failed
  have failedRun : (x >>= f).run s = (.error (.failure failure), _) := Prod.ext failed rfl
  obtain own | ⟨a, between, ran, own⟩ := bind_eq_error.1 failedRun
  · exact first s failure (congrArg Prod.fst own)
  · exact next s a between ran between failure (congrArg Prod.fst own)

theorem mono {others : Failure → Prop} {x : Run α} (only : FailsOnly allowed x)
    (weaker : ∀ failure, allowed failure → others failure) : FailsOnly others x :=
  fun s failure failed => weaker failure (only s failure failed)

end FailsOnly

end SyncedFile.Run

/-! ## Files that a run sees -/

namespace SyncedFile

/-- The surroundings hold the same files, while their calls and events may differ. -/
structure Surroundings.SameFiles (s t : Surroundings) : Prop where
  tree : s.tree = t.tree
  readOnly : s.readOnly = t.readOnly

namespace Run

variable {α β : Type}

/-- The run sees the files only: neither its result nor the files that it leaves depend on the calls
and events before it. -/
def SeesFiles (x : Run α) : Prop :=
  ∀ ⦃s t : Surroundings⦄, s.SameFiles t →
    (x.run s).1 = (x.run t).1 ∧ (x.run s).2.SameFiles (x.run t).2

namespace SeesFiles

theorem pure (a : α) : SeesFiles (pure a) :=
  fun _ _ files => ⟨rfl, files⟩

theorem fail (failure : Failure) : SeesFiles (fail failure : Run α) :=
  fun _ _ files => ⟨rfl, files⟩

theorem ofFailure (result : Except Failure α) : SeesFiles (ofFailure result) := by
  cases result with
  | ok a => exact .pure a
  | error failure => exact .fail failure

theorem ofMisuse (result : Except Misuse α) : SeesFiles (ofMisuse result) := by
  cases result with
  | ok a => exact .pure a
  | error m => exact fun _ _ files => ⟨rfl, files⟩

theorem emitAll (events : List Log.Event) : SeesFiles (emitAll events) :=
  fun _ _ files => ⟨rfl, files.tree, files.readOnly⟩

theorem record (call : Call) : SeesFiles (record call) :=
  fun _ _ files => ⟨rfl, files.tree, files.readOnly⟩

theorem bind {x : Run α} {f : α → Run β} (first : SeesFiles x) (next : ∀ a, SeesFiles (f a)) :
    SeesFiles (x >>= f) := by
  intro s t files
  obtain ⟨result, between⟩ := first files
  rw [bind_run, bind_run]
  rcases left : x.run s with ⟨fault | a, u⟩ <;> rcases right : x.run t with ⟨other | b, v⟩ <;>
    rw [left, right] at result between
  · obtain rfl := Except.error.inj result
    exact ⟨rfl, between⟩
  · cases result
  · cases result
  · obtain rfl := Except.ok.inj result
    exact next a between

/-- A run that looks at the surroundings sees the files only, if what it does is the same wherever
the files are. -/
theorem get_bind {f : Surroundings → Run α} (sees : ∀ s, SeesFiles (f s))
    (same : ∀ s t : Surroundings, s.SameFiles t → f s = f t) : SeesFiles (get >>= f) := by
  intro s t files
  rw [bind_run, bind_run, get_run, get_run]
  show ((f s).run s).1 = _ ∧ ((f s).run s).2.SameFiles _
  rw [same s t files]
  exact sees t files

end SeesFiles

end Run
end SyncedFile
