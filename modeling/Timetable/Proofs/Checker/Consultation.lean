import Timetable.Proofs.Checker.Schedule

/-!
When a checker consults its clock. Main statement: in a row of questions each question about the
current time consults it once, if its name is known, and is answered as a question about the instant
that the clock shows; no other question depends on the clock or on the questions before it.
-/
namespace Timetable

/-- A question about the current time becomes one about an instant. -/
def Question.atInstant (i : Instant) : Question → Question
  | .isActive name none => .isActive name (some i)
  | .active none => .active (some i)
  | q => q

/-- Two turns differ at most in what the clock was consulted for. -/
def Turn.SameReply (t u : Turn) : Prop :=
  t.outcome = u.outcome ∧ t.notices = u.notices

namespace Checker

/-- The questions for which the clock has to be consulted. -/
def consults (k : Checker) : Question → Bool
  | .now => true
  | .active none => true
  | .isActive name none => k.knows name
  | _ => false

variable {k : Checker} {clock : Clock} {seen : List String} {q : Question}

/-! ### One question -/

theorem exists_of_consults (h : k.consults q = true) :
    q = .now ∨ q = .active none ∨ ∃ name s, q = .isActive name none ∧ k.schedule name = .ok s := by
  cases q with
  | now => exact Or.inl rfl
  | active instant =>
      cases instant with
      | none => exact Or.inr (Or.inl rfl)
      | some i => cases h
  | isActive name instant =>
      cases instant with
      | none =>
          obtain ⟨s, hschedule⟩ := exists_schedule_of_knows h
          exact Or.inr (Or.inr ⟨name, s, rfl, hschedule⟩)
      | some i => cases h
  | names => cases h
  | schedule name => cases h
  | select name is => cases h

theorem ask_of_clock_ok (h : k.consults q = true) {i : Instant}
    (hclock : clock seen.length k.timezone = .ok i) :
    (k.ask clock seen q).consulted = seen ++ [k.timezone] ∧
      (q = .now → (k.ask clock seen q).outcome = .ok (.instant i)) ∧
      (q ≠ .now → ∀ clock' seen',
        (k.ask clock seen q).SameReply (k.ask clock' seen' (q.atInstant i))) := by
  rcases exists_of_consults h with rfl | rfl | ⟨name, s, rfl, hschedule⟩
  · simp [ask, resolve, hclock, quiet, Except.map, Except.mapError]
  · simp [ask, resolve, hclock, quiet, Question.atInstant, Turn.SameReply]
  · simp [ask, askActive, hschedule, resolve, hclock, Question.atInstant, Turn.SameReply]

theorem ask_of_clock_error (h : k.consults q = true) {e : StampError}
    (hclock : clock seen.length k.timezone = .error e) :
    (k.ask clock seen q).consulted = seen ++ [k.timezone] ∧
      (k.ask clock seen q).outcome = .error (.clock e) := by
  rcases exists_of_consults h with rfl | rfl | ⟨name, s, rfl, hschedule⟩
  · simp [ask, resolve, hclock, quiet, Except.map, Except.mapError]
  · simp [ask, resolve, hclock, quiet, Except.map, Except.mapError]
  · simp [ask, askActive, hschedule, resolve, hclock, quiet]

/-- A question about an unknown name ends before the clock comes in, like one about an instant. -/
theorem ask_of_not_consults (h : k.consults q = false) (clock : Clock) (seen : List String) :
    (k.ask clock seen q).consulted = seen ∧
      ∀ clock' seen', (k.ask clock seen q).SameReply (k.ask clock' seen' q) := by
  cases q with
  | names => exact ⟨rfl, fun _ _ => ⟨rfl, rfl⟩⟩
  | schedule name => exact ⟨rfl, fun _ _ => ⟨rfl, rfl⟩⟩
  | select name is => exact ⟨rfl, fun _ _ => ⟨rfl, rfl⟩⟩
  | now => cases h
  | active instant =>
      cases instant with
      | none => cases h
      | some i => exact ⟨rfl, fun _ _ => ⟨rfl, rfl⟩⟩
  | isActive name instant =>
      cases hschedule : k.schedule name with
      | error e => simp [ask, askActive, hschedule, quiet, Turn.SameReply]
      | ok s =>
          cases instant with
          | none =>
              rw [schedule_of_not_knows h] at hschedule
              cases hschedule
          | some i => simp [ask, askActive, hschedule, resolve, Turn.SameReply]

/-! ### A row of questions -/

/-- The time zones that the clock has been consulted for after some questions. -/
def consultedAfter (k : Checker) (seen : List String) (qs : List Question) : List String :=
  seen ++ List.replicate (qs.countP k.consults) k.timezone

theorem ask_consulted (k : Checker) (clock : Clock) (seen : List String) (q : Question) :
    (k.ask clock seen q).consulted = k.consultedAfter seen [q] := by
  cases hq : k.consults q with
  | false => simp [(ask_of_not_consults hq clock seen).1, consultedAfter, hq]
  | true =>
      cases hclock : clock seen.length k.timezone with
      | ok i => simp [(ask_of_clock_ok hq hclock).1, consultedAfter, hq]
      | error e => simp [(ask_of_clock_error hq hclock).1, consultedAfter, hq]

theorem consultedAfter_append (k : Checker) (seen : List String) (qs rest : List Question) :
    k.consultedAfter seen (qs ++ rest) = k.consultedAfter (k.consultedAfter seen qs) rest := by
  simp only [consultedAfter, List.countP_append, List.replicate_add, List.append_assoc]

/-- The turn of a question is the one that it has alone, after the consultations for the questions
before it. -/
theorem getElem?_askAll (k : Checker) (clock : Clock) (seen : List String) (qs : List Question)
    (n : Nat) :
    (k.askAll clock seen qs)[n]? =
      qs[n]?.map (k.ask clock (k.consultedAfter seen (qs.take n))) := by
  induction qs generalizing seen n with
  | nil => simp [askAll]
  | cons q qs ih =>
      cases n with
      | zero => simp [askAll, consultedAfter]
      | succ n =>
          -- The rest of the row starts with the consultations for its first question.
          rw [askAll, List.getElem?_cons_succ, List.getElem?_cons_succ, List.take_succ_cons, ih,
            ask_consulted, ← consultedAfter_append, List.singleton_append]

/-- In a row of questions, one that asks for the current time consults the clock once more than those
before it, for the time zone of the checker. Its answer is what the clock shows, or the answer that
the instant shown gets at any other time. A question that does not consult the clock has the same
answer with any clock and after any other questions. -/
theorem row_consults_clock_once (k : Checker) (clock : Clock) (seen : List String)
    (before after : List Question) (q : Question) :
    ∃ turn, (k.askAll clock seen (before ++ q :: after))[before.length]? = some turn ∧
      turn.consulted = seen ++
        List.replicate (before.countP k.consults + if k.consults q then 1 else 0) k.timezone ∧
      (k.consults q = true →
        (∀ i, clock (seen.length + before.countP k.consults) k.timezone = .ok i →
          (q = .now → turn.outcome = .ok (.instant i)) ∧
          (q ≠ .now → ∀ clock' seen', turn.SameReply (k.ask clock' seen' (q.atInstant i)))) ∧
        ∀ e, clock (seen.length + before.countP k.consults) k.timezone = .error e →
          turn.outcome = .error (.clock e)) ∧
      (k.consults q = false → ∀ clock' seen', turn.SameReply (k.ask clock' seen' q)) := by
  have hlength : (k.consultedAfter seen before).length =
      seen.length + before.countP k.consults := by
    simp [consultedAfter]
  refine ⟨k.ask clock (k.consultedAfter seen before) q, ?_, ?_, ?_, ?_⟩
  · simp [getElem?_askAll]
  · rw [ask_consulted, ← consultedAfter_append, consultedAfter, List.countP_append,
      List.countP_singleton]
  · intro hq
    rw [← hlength]
    exact ⟨fun i hclock => (ask_of_clock_ok hq hclock).2,
      fun e hclock => (ask_of_clock_error hq hclock).2⟩
  · intro hq
    exact (ask_of_not_consults hq clock _).2

def weekend : Checker :=
  ⟨[("Weekend", ⟨[⟨some .saturday, none⟩]⟩)], "Europe/Berlin"⟩

def monday : Instant :=
  ⟨⟨2024, 11, 25, by decide, by decide, by decide⟩, .midnight, none⟩

def saturday : Instant :=
  ⟨⟨2024, 11, 30, by decide, by decide, by decide⟩, .midnight, none⟩

/-- The unknown name does not use up the first thing that the clock shows. -/
theorem weekend_row_consults_clock_once :
    ∃ turn, (weekend.askAll (.script monday [saturday]) []
        [.isActive "holidays" none, .now, .isActive "WEEKEND" none])[2]? = some turn ∧
      turn.consulted = ["Europe/Berlin", "Europe/Berlin"] ∧
      turn.SameReply (weekend.ask (.script monday []) []
        (.isActive "WEEKEND" (some saturday))) := by
  obtain ⟨turn, hturn, hconsulted, hreply, -⟩ := row_consults_clock_once weekend
    (.script monday [saturday]) [] [.isActive "holidays" none, .now] [] (.isActive "WEEKEND" none)
  refine ⟨turn, hturn, hconsulted.trans (by decide +kernel), ?_⟩
  exact ((hreply (by decide +kernel)).1 saturday (by decide +kernel)).2 (by decide) _ _

end Checker

end Timetable
