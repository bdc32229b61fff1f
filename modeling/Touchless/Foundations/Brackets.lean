import Touchless.Foundations.PartialRun
import Mathlib.Data.List.Chain

/-!
# Bracketed use of a resource

A log of events in which some open a resource of a given kind, some close it, some need it to be
open with a suitable kind, some exclude that it is open, and the others do not concern it. `replay`
follows the log with the kind that is open and fails at the first event that is out of place, so a
log is in order exactly as far as it can be replayed. Replaying is what proofs about programs use,
since it takes one event at a time; `replay_wellBracketed` says what it means for the log as a
whole: openings and closings alternate, beginning with an opening, and whatever needs the resource,
and nothing that excludes it, lies behind an opening of a suitable kind that has not been closed in
between.
-/

namespace Touchless

/-- What an event means for the resource. -/
inductive Bracket (κ : Type*) where
  | opens (kind : κ)
  | closes
  | needs (suitable : κ → Bool)
  | excludes
  | idle

namespace Bracket

variable {ε κ : Type*} {role : ε → Bracket κ} {start finish : Option κ} {events : List ε}

/-- The resource after an event, from the kind that is open; `none` if the event is out of place. -/
def step : Option κ → Bracket κ → Option (Option κ)
  | none, opens kind => some (some kind)
  | some _, closes => some none
  | some kind, needs suitable => if suitable kind then some (some kind) else none
  | none, excludes => some none
  | state, idle => some state
  | _, _ => none

section Step

variable {state state' : Option κ}

@[simp]
theorem step_opens_eq_some {kind : κ} :
    step state (opens kind) = some state' ↔ state = none ∧ state' = some kind := by
  cases state <;> simp [step, eq_comm]

@[simp]
theorem step_closes_eq_some :
    step state closes = some state' ↔ state ≠ none ∧ state' = none := by
  cases state <;> simp [step, eq_comm]

@[simp]
theorem step_needs_eq_some {suitable : κ → Bool} :
    step state (needs suitable) = some state' ↔
      ∃ kind, state = some kind ∧ suitable kind = true ∧ state' = some kind := by
  cases state with
  | none => simp [step]
  | some kind => cases hsuitable : suitable kind <;> simp [step, hsuitable, @eq_comm _ state']

@[simp]
theorem step_excludes_eq_some :
    step state excludes = some state' ↔ state = none ∧ state' = none := by
  cases state <;> simp [step, eq_comm]

@[simp]
theorem step_idle_eq_some : step state idle = some state' ↔ state' = state := by
  cases state <;> simp [step, eq_comm]

end Step

/-- The resource after a log. -/
def replay (role : ε → Bracket κ) (start : Option κ) (events : List ε) : Option (Option κ) :=
  events.foldlM (fun state e ↦ step state (role e)) start

@[simp]
theorem replay_nil : replay role start [] = some start := rfl

theorem replay_append (first second : List ε) :
    replay role start (first ++ second) =
      (replay role start first).bind fun middle ↦ replay role middle second := by
  simp [replay, List.foldlM_append]

/-- `true` for an opening, `false` for a closing. -/
def sign : Bracket κ → Option Bool
  | opens _ => some true
  | closes => some false
  | _ => none

/-- The openings and closings of a log, in order. -/
def signs (role : ε → Bracket κ) (events : List ε) : List Bool :=
  events.filterMap fun e ↦ (role e).sign

/-- A suitable opening without a closing, or another opening, after it. -/
def Opened (role : ε → Bracket κ) (suitable : κ → Bool) (events : List ε) : Prop :=
  ∃ earlier e kind between, events = earlier ++ e :: between ∧ role e = opens kind ∧
    suitable kind = true ∧ ∀ x ∈ between, (role x).sign = none

/-- A log in which the resource is used as it should be. -/
structure WellBracketed (role : ε → Bracket κ) (events : List ε) : Prop where
  /-- openings and closings alternate -/
  alternate : (signs role events).IsChain (· ≠ ·)
  /-- the first of them is an opening -/
  opensFirst : (signs role events).head? ≠ some false
  /-- what needs the resource comes while it is open -/
  enclosed : ∀ earlier e later suitable, events = earlier ++ e :: later → role e = needs suitable →
    Opened role suitable earlier
  /-- what excludes the resource does not -/
  excluded : ∀ earlier e later, events = earlier ++ e :: later → role e = excludes →
    ¬Opened role (fun _ ↦ true) earlier

theorem signs_concat (events : List ε) (e : ε) :
    signs role (events ++ [e]) = signs role events ++ (role e).sign.toList := by
  rw [signs, List.filterMap_append, ← signs]
  cases h : (role e).sign <;> simp [h]

/-- What replaying knows of the log so far. -/
structure Replayed (role : ε → Bracket κ) (events : List ε) (state : Option κ) : Prop
    extends WellBracketed role events where
  /-- an open resource was opened by the last event that concerns it -/
  opened : ∀ kind, state = some kind → (signs role events).getLast? = some true ∧
    ∀ suitable, suitable kind = true → Opened role suitable events
  /-- a closed resource was closed by the last event that concerns it, or never opened -/
  closed : state = none → (signs role events).getLast? ≠ some true

theorem Opened.concat {suitable : κ → Bool} (h : Opened role suitable events) {e : ε}
    (he : (role e).sign = none) : Opened role suitable (events ++ [e]) := by
  obtain ⟨earlier, o, kind, between, rfl, hrole, hkind, hbetween⟩ := h
  refine ⟨earlier, o, kind, between ++ [e], by simp, hrole, hkind, fun x hx ↦ ?_⟩
  rcases List.mem_append.1 hx with hx | hx
  · exact hbetween x hx
  · rwa [List.mem_singleton.1 hx]

/-- The last event of an opened resource that concerns it is an opening. -/
theorem Opened.getLast?_signs {suitable : κ → Bool} (h : Opened role suitable events) :
    (signs role events).getLast? = some true := by
  obtain ⟨earlier, o, kind, between, rfl, hrole, -, hbetween⟩ := h
  have hnil : between.filterMap (fun e ↦ (role e).sign) = [] :=
    List.filterMap_eq_nil_iff.2 hbetween
  have hopen : (role o).sign = some true := by rw [hrole]; rfl
  simp [signs, List.filterMap_append, hopen, hnil]

/-- Every event of a longer log is one of the shorter log or the last one. -/
theorem WellBracketed.excluded_concat (h : WellBracketed role events) {e : ε}
    (hlast : role e = excludes → ¬Opened role (fun _ ↦ true) events) :
    ∀ earlier x later, events ++ [e] = earlier ++ x :: later → role x = excludes →
      ¬Opened role (fun _ ↦ true) earlier := by
  intro earlier x later hsplit hx
  rcases List.eq_nil_or_concat later with rfl | ⟨later, y, rfl⟩
  · obtain ⟨rfl, hsame⟩ := List.append_inj' hsplit rfl
    obtain rfl := (List.cons.inj hsame).1
    exact hlast hx
  · have hsplit' : events ++ [e] = (earlier ++ x :: later) ++ [y] := by
      rw [hsplit]
      simp
    exact h.excluded earlier x later (List.append_inj' hsplit' rfl).1 hx

/-- The same for what needs the resource. -/
theorem WellBracketed.enclosed_concat (h : WellBracketed role events) {e : ε}
    (hlast : ∀ suitable, role e = needs suitable → Opened role suitable events) :
    ∀ earlier x later suitable, events ++ [e] = earlier ++ x :: later → role x = needs suitable →
      Opened role suitable earlier := by
  intro earlier x later suitable hsplit hx
  rcases List.eq_nil_or_concat later with rfl | ⟨later, y, rfl⟩
  · obtain ⟨rfl, hsame⟩ := List.append_inj' hsplit rfl
    obtain rfl := (List.cons.inj hsame).1
    exact hlast suitable hx
  · have hsplit' : events ++ [e] = (earlier ++ x :: later) ++ [y] := by
      rw [hsplit]
      simp
    exact h.enclosed earlier x later suitable (List.append_inj' hsplit' rfl).1 hx

/-- An event that neither opens nor closes leaves what is known of the brackets. -/
theorem Replayed.neutral {state : Option κ} (h : Replayed role events state) {e : ε}
    (he : (role e).sign = none)
    (hneeds : ∀ suitable, role e = needs suitable → Opened role suitable events)
    (hexcludes : role e = excludes → ¬Opened role (fun _ ↦ true) events) :
    Replayed role (events ++ [e]) state := by
  have hsigns : signs role (events ++ [e]) = signs role events := by
    rw [signs_concat, he, Option.toList_none, List.append_nil]
  refine ⟨⟨?_, ?_, h.enclosed_concat hneeds, h.excluded_concat hexcludes⟩, fun kind hkind ↦ ?_,
    fun hclosed ↦ ?_⟩
  · rw [hsigns]
    exact h.alternate
  · rw [hsigns]
    exact h.opensFirst
  · rw [hsigns]
    exact ⟨(h.opened kind hkind).1, fun suitable hs ↦
      ((h.opened kind hkind).2 suitable hs).concat he⟩
  · rw [hsigns]
    exact h.closed hclosed

/-- An event with a sign other than the last one continues the alternation. -/
theorem Replayed.signed {state : Option κ} (h : Replayed role events state) {e : ε} {b : Bool}
    (he : (role e).sign = some b) (hlast : (signs role events).getLast? ≠ some b)
    (hfirst : b = false → signs role events ≠ []) : WellBracketed role (events ++ [e]) := by
  have hsigns : signs role (events ++ [e]) = signs role events ++ [b] := by
    rw [signs_concat, he, Option.toList_some]
  refine ⟨?_, ?_, h.enclosed_concat (fun suitable hs ↦ by rw [hs] at he; cases he),
    h.excluded_concat (fun hs ↦ by rw [hs] at he; cases he)⟩
  · rw [hsigns, List.isChain_append]
    refine ⟨h.alternate, List.isChain_singleton b, fun x hx y hy ↦ ?_⟩
    obtain rfl : b = y := by simpa using hy
    rintro rfl
    exact hlast hx
  · rw [hsigns]
    cases hs : signs role events with
    | nil =>
      cases b with
      | false => exact absurd hs (hfirst rfl)
      | true => simp
    | cons x xs =>
      have hhead := h.opensFirst
      rw [hs] at hhead
      simpa using hhead

/-- **One event.** -/
theorem Replayed.step {state state' : Option κ} (h : Replayed role events state) {e : ε}
    (he : Bracket.step state (role e) = some state') : Replayed role (events ++ [e]) state' := by
  cases hrole : role e with
  | idle =>
    rw [hrole] at he
    obtain rfl := step_idle_eq_some.1 he
    exact h.neutral (by rw [hrole]; rfl) (fun suitable hs ↦ by rw [hrole] at hs; cases hs)
      fun hs ↦ by rw [hrole] at hs; cases hs
  | excludes =>
    rw [hrole] at he
    obtain ⟨rfl, rfl⟩ := step_excludes_eq_some.1 he
    exact h.neutral (by rw [hrole]; rfl) (fun suitable hs ↦ by rw [hrole] at hs; cases hs)
      fun _ hopened ↦ h.closed rfl hopened.getLast?_signs
  | needs suitable =>
    rw [hrole] at he
    obtain ⟨kind, rfl, hsuitable, rfl⟩ := step_needs_eq_some.1 he
    refine h.neutral (by rw [hrole]; rfl) (fun suitable' hs ↦ ?_)
      fun hs ↦ by rw [hrole] at hs; cases hs
    obtain rfl : suitable = suitable' := by rw [hrole] at hs; exact needs.inj hs
    exact (h.opened kind rfl).2 suitable hsuitable
  | opens kind =>
    rw [hrole] at he
    obtain ⟨rfl, rfl⟩ := step_opens_eq_some.1 he
    have hsign : (role e).sign = some true := by rw [hrole]; rfl
    refine ⟨h.signed hsign (h.closed rfl) (by simp), fun kind' hkind ↦ ?_, by simp⟩
    obtain rfl := Option.some.inj hkind
    rw [signs_concat, hsign]
    -- the event itself is the opening, and nothing has come after it
    exact ⟨by simp, fun suitable hs ↦ ⟨events, e, kind, [], rfl, hrole, hs, by simp⟩⟩
  | closes =>
    rw [hrole] at he
    obtain ⟨hopen, rfl⟩ := step_closes_eq_some.1 he
    obtain ⟨kind, rfl⟩ := Option.ne_none_iff_exists'.1 hopen
    have hsign : (role e).sign = some false := by rw [hrole]; rfl
    have hlast := (h.opened kind rfl).1
    refine ⟨h.signed hsign (by rw [hlast]; simp) fun _ hnil ↦ ?_, by simp, fun _ ↦ ?_⟩
    · simp [hnil] at hlast
    · rw [signs_concat, hsign]
      simp

/-- What replaying from the closed resource knows of the whole log. -/
theorem replayed_of_replay (h : replay role none events = some finish) :
    Replayed role events finish := by
  have hstart : Replayed role [] none :=
    ⟨⟨List.isChain_nil, by simp [signs], fun earlier e later suitable hsplit ↦ by simp at hsplit,
      fun earlier e later hsplit ↦ by simp at hsplit⟩, by simp, by simp [signs]⟩
  exact PartialRun.foldlM_invariant (P := fun done state ↦ Replayed role done state) hstart
    (fun done state e state' _ hdone he ↦ hdone.step he) h

/-- **A log that can be replayed from the closed resource is well bracketed.** -/
theorem replay_wellBracketed (h : replay role none events = some finish) :
    WellBracketed role events :=
  (replayed_of_replay h).toWellBracketed

/-- The resource is open at the end of the log exactly if its last opening is unmatched. -/
theorem opened_iff_of_replay (h : replay role none events = some finish) :
    Opened role (fun _ ↦ true) events ↔ finish.isSome = true := by
  have hreplayed := replayed_of_replay h
  cases finish with
  | none => exact ⟨fun hopened ↦ absurd hopened.getLast?_signs (hreplayed.closed rfl), by simp⟩
  | some kind => exact ⟨fun _ ↦ rfl, fun _ ↦ (hreplayed.opened kind rfl).2 _ rfl⟩

end Bracket

end Touchless
