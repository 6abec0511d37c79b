import Mathlib.Data.List.Basic
import Mathlib.Data.List.Induction
/-! # Histories

A history is a list of events, the oldest first, that grows at its end.  A law of histories is a
condition on an event and all that came before it; `Lawful` says that a history obeys it
throughout.  A law is kept if every event added obeys it (`lawful_append_singleton`).

Some events end a time: a reset ends a cycle, a stop ends the use of a device.
`Since ends history e` says that `e` has happened and that its time has not been ended since. -/

namespace CaptureFlow

variable {ε : Type}

/-! ### Laws of histories -/

/-- Every event of a history is allowed by what came before it. -/
def Lawful (allowed : List ε → ε → Prop) (history : List ε) : Prop :=
  ∀ past e future, history = past ++ e :: future → allowed past e

theorem lawful_nil (allowed : List ε → ε → Prop) : Lawful allowed [] := by
  intro past e future split
  cases past <;> cases split

theorem append_singleton_eq_split {l past future : List ε} {e x : ε}
    (h : l ++ [e] = past ++ x :: future) :
    (past = l ∧ x = e ∧ future = []) ∨ ∃ rest, future = rest ++ [e] ∧ l = past ++ x :: rest := by
  rcases List.eq_nil_or_concat' future with rfl | ⟨rest, last, rfl⟩
  · obtain ⟨rfl, rfl⟩ := List.append_singleton_inj.mp h
    exact .inl ⟨rfl, rfl, rfl⟩
  · have grouped : l ++ [e] = (past ++ x :: rest) ++ [last] := by
      rw [h, List.append_assoc, List.cons_append]
    obtain ⟨rfl, rfl⟩ := List.append_singleton_inj.mp grouped
    exact .inr ⟨rest, rfl, rfl⟩

theorem lawful_append_singleton {allowed : List ε → ε → Prop} {history : List ε}
    {e : ε} : Lawful allowed (history ++ [e]) ↔ Lawful allowed history ∧ allowed history e := by
  constructor
  · intro lawful
    refine ⟨fun past x future split => ?_, lawful history e [] rfl⟩
    exact lawful past x (future ++ [e]) (by rw [split, List.append_assoc, List.cons_append])
  · rintro ⟨lawful, last⟩ past x future split
    rcases append_singleton_eq_split split with ⟨rfl, rfl, rfl⟩ | ⟨rest, rfl, earlier⟩
    · exact last
    · exact lawful past x rest earlier

theorem Lawful.append {allowed : List ε → ε → Prop} {history more : List ε}
    (h : Lawful allowed history) (always : ∀ past, ∀ e ∈ more, allowed past e) :
    Lawful allowed (history ++ more) := by
  induction more using List.reverseRecOn with
  | nil => rwa [List.append_nil]
  | append_singleton more last ih =>
      rw [← List.append_assoc, lawful_append_singleton]
      refine ⟨ih fun past e mem => always past e (List.mem_append_left _ mem), ?_⟩
      exact always _ last (List.mem_append_right _ List.mem_cons_self)

/-! ### The current time -/

/-- `e` has happened, and nothing after it that ends its time. -/
def Since (ends : ε → Bool) (history : List ε) (e : ε) : Prop :=
  ∃ past since, history = past ++ e :: since ∧ ∀ later ∈ since, ends later = false

variable {ends : ε → Bool} {history : List ε} {e last : ε}

theorem Since.mem (h : Since ends history e) : e ∈ history := by
  obtain ⟨past, since, rfl, _⟩ := h
  exact List.mem_append_right past List.mem_cons_self

theorem since_append_self (ends : ε → Bool) (history : List ε) (e : ε) :
    Since ends (history ++ [e]) e :=
  ⟨history, [], rfl, fun _ mem => absurd mem List.not_mem_nil⟩

theorem Since.append (h : Since ends history e) (goesOn : ends last = false) :
    Since ends (history ++ [last]) e := by
  obtain ⟨past, since, rfl, quiet⟩ := h
  refine ⟨past, since ++ [last], by rw [List.append_assoc, List.cons_append], ?_⟩
  intro later mem
  rcases List.mem_append.mp mem with mem | mem
  · exact quiet later mem
  · rwa [List.mem_singleton.mp mem]

theorem Since.of_append (h : Since ends (history ++ [last]) e) :
    e = last ∨ Since ends history e ∧ ends last = false := by
  obtain ⟨past, since, split, quiet⟩ := h
  rcases append_singleton_eq_split split with ⟨_, rfl, _⟩ | ⟨rest, rfl, rfl⟩
  · exact .inl rfl
  · refine .inr ⟨⟨past, rest, rfl, fun later mem => ?_⟩, ?_⟩
    · exact quiet later (List.mem_append_left [last] mem)
    · exact quiet last (List.mem_append_right rest List.mem_cons_self)

/-- Only one event that ends a time has nothing of the kind after it. -/
theorem Since.unique {e' : ε} (h : Since ends history e) (h' : Since ends history e')
    (ended : ends e = true) (ended' : ends e' = true) : e = e' := by
  obtain ⟨past, since, rfl, quiet⟩ := h
  obtain ⟨past', since', split, quiet'⟩ := h'
  rcases List.append_eq_append_iff.mp split with ⟨between, _, rest⟩ | ⟨between, _, rest⟩
  · cases between with
    | nil => exact (List.cons.inj rest).1
    | cons first between =>
        obtain ⟨rfl, rfl⟩ := List.cons.inj rest
        rw [quiet e' (List.mem_append_right between List.mem_cons_self)] at ended'
        cases ended'
  · cases between with
    | nil => exact (List.cons.inj rest).1.symm
    | cons first between =>
        obtain ⟨rfl, rfl⟩ := List.cons.inj rest
        rw [quiet' e (List.mem_append_right between List.mem_cons_self)] at ended
        cases ended

end CaptureFlow
