import Agenda.Rule.Text
import Agenda.Proofs.Text.Pieces

/-!
# What a rule text can give

A text is read by the kind that its first word names (`parse_eq_readArguments`). A text that is read
gives a well-formed rule: its interval is in range, and its lists are not empty and hold numbers of
their domain (`wellFormed_of_parse`).
-/

namespace Agenda

open Numbered (value)

/-- A function of a result succeeds exactly where there is one. -/
theorem map_eq_ok_iff {ε α β : Type} {f : α → β} {x : Except ε α} {b : β} :
    x.map f = .ok b ↔ ∃ a, x = .ok a ∧ f a = b := by
  cases x with
  | error e => simp [Except.map]
  | ok a => simp [Except.map]

/-- A function of a result fails exactly where the result does. -/
theorem map_eq_error_iff {ε α β : Type} {f : α → β} {x : Except ε α} {e : ε} :
    x.map f = .error e ↔ x = .error e := by
  cases x with
  | error found => simp [Except.map]
  | ok a => simp [Except.map]

namespace Rule

private theorem readInterval_mem {token : List Char} {interval : Nat}
    (h : readInterval token = .ok interval) : 1 ≤ interval ∧ interval ≤ longestInterval := by
  unfold readInterval at h
  split at h
  · exact absurd h (by simp)
  · next value _ =>
    split at h
    · exact absurd h (by simp)
    · split at h
      · exact absurd h (by simp)
      · rw [← Except.ok.inj h]
        omega

section Lists

variable {α : Type} {kind : EntryKind} {convert : Int → Option α}

private theorem readEntries_spec {entries : List (List Char)} {as : List α}
    (h : readEntries kind convert entries = .ok as) :
    as.length = entries.length ∧ ∀ a ∈ as, ∃ n, convert n = some a := by
  induction entries generalizing as with
  | nil =>
    rw [← Except.ok.inj h]
    exact ⟨rfl, by simp⟩
  | cons entry entries ih =>
    unfold readEntries at h
    split at h
    · exact absurd h (by simp)
    · next a hentry =>
      obtain ⟨rest, hrest, rfl⟩ := map_eq_ok_iff.1 h
      obtain ⟨hlen, hall⟩ := ih hrest
      refine ⟨by simp [hlen], fun b hb ↦ ?_⟩
      rcases List.mem_cons.1 hb with rfl | hb
      · unfold readEntry at hentry
        split at hentry
        · next hconvert =>
          obtain ⟨n, _, hn⟩ := Option.bind_eq_some_iff.1 hconvert
          exact ⟨n, by rw [hn, Except.ok.inj hentry]⟩
        · exact absurd hentry (by simp)
      · exact hall b hb

private theorem readSet_spec [Numbered α] {list : List Char} {s : NumberSet α}
    (h : readSet kind convert list = .ok s) :
    s.toList ≠ [] ∧ ∀ a ∈ s, ∃ n, convert n = some a := by
  obtain ⟨as, hentries, rfl⟩ := map_eq_ok_iff.1 h
  obtain ⟨hlen, hall⟩ := readEntries_spec hentries
  have hne : as ≠ [] := by
    intro hnil
    rw [hnil, List.length_nil, eq_comm, List.length_eq_zero_iff] at hlen
    exact List.splitOn_ne_nil _ _ hlen
  constructor
  · obtain ⟨a, ha⟩ := List.exists_mem_of_ne_nil as hne
    exact List.ne_nil_of_mem (NumberSet.mem_ofList.2 ha)
  · exact fun a ha ↦ hall a (NumberSet.mem_ofList.1 ha)

end Lists

/-- A number up to a bound converts to itself. -/
theorem countUpTo?_eq_some_iff {most a : Nat} {n : Int} :
    countUpTo? most n = some a ↔ value a = n ∧ 1 ≤ n ∧ n ≤ most := by
  have hvalue : value a = (a : Int) := rfl
  rw [countUpTo?, hvalue]
  split
  · rw [Option.some.injEq]
    omega
  · simp only [reduceCtorEq, false_iff]
    omega

/-- A number of a day, counted from the start of a month or from its end, converts to the day that
is written as it. -/
theorem ofValue?_eq_some_iff {n : Int} {selector : DaySelector} :
    DaySelector.ofValue? n = some selector ↔
      value selector = n ∧ (n = -2 ∨ n = -1 ∨ 1 ≤ n ∧ n ≤ 31) := by
  constructor
  · intro h
    unfold DaySelector.ofValue? at h
    split at h
    · next hn =>
      rw [hn, ← Option.some.inj h]
      exact ⟨rfl, .inl rfl⟩
    · split at h
      · next hn =>
        rw [hn, ← Option.some.inj h]
        exact ⟨rfl, .inr (.inl rfl)⟩
      · split at h
        · next hn =>
          rw [← Option.some.inj h]
          exact ⟨Int.toNat_of_nonneg (by omega), .inr (.inr hn)⟩
        · exact absurd h (by simp)
  · rintro ⟨rfl, h⟩
    cases selector with
    | secondToLast => rfl
    | last => rfl
    | day number =>
      have hvalue : value (DaySelector.day number) = (number : Int) := rfl
      rw [hvalue] at h ⊢
      rw [DaySelector.ofValue?, if_neg (by omega), if_neg (by omega), if_pos (by omega),
        Int.toNat_natCast]

private theorem readSet_countUpTo?_spec {kind : EntryKind} {most : Nat} {list : List Char}
    {s : NumberSet Nat} (h : readSet kind (countUpTo? most) list = .ok s) :
    s.toList ≠ [] ∧ ∀ a ∈ s, 1 ≤ a ∧ a ≤ most := by
  obtain ⟨hne, hall⟩ := readSet_spec h
  refine ⟨hne, fun a ha ↦ ?_⟩
  obtain ⟨n, hn⟩ := hall a ha
  have hvalue : (a : Int) = n := (countUpTo?_eq_some_iff.1 hn).1
  have hbound := (countUpTo?_eq_some_iff.1 hn).2
  omega

private theorem readDays_spec {list : List Char} {days : NumberSet DaySelector}
    (h : readDays list = .ok days) :
    days.toList ≠ [] ∧ ∀ n, .day n ∈ days → 1 ≤ n ∧ n ≤ 31 := by
  obtain ⟨hne, hall⟩ := readSet_spec h
  refine ⟨hne, fun number hday ↦ ?_⟩
  obtain ⟨n, hn⟩ := hall _ hday
  have hvalue : (number : Int) = n := (ofValue?_eq_some_iff.1 hn).1
  have hbound := (ofValue?_eq_some_iff.1 hn).2
  omega

private theorem wellFormed_of_readArguments {text : String} {kind : Kind}
    {arguments : List (List Char)}
    {rule : Rule} (h : readArguments text kind arguments = .ok rule) : rule.WellFormed := by
  unfold readArguments at h
  split at h
  · obtain ⟨interval, hread, rfl⟩ := map_eq_ok_iff.1 h
    exact readInterval_mem hread
  · rw [← Except.ok.inj h]
    exact trivial
  · obtain ⟨weekdays, hread, rfl⟩ := map_eq_ok_iff.1 h
    exact readSet_countUpTo?_spec hread
  · obtain ⟨days, hread, rfl⟩ := map_eq_ok_iff.1 h
    obtain ⟨hne, hdays⟩ := readDays_spec hread
    exact ⟨hne, hdays, fun m hm ↦ absurd hm List.not_mem_nil⟩
  · split at h
    · exact absurd h (by simp)
    · next days hdayList =>
      obtain ⟨months, hread, rfl⟩ := map_eq_ok_iff.1 h
      obtain ⟨hne, hdays⟩ := readDays_spec hdayList
      exact ⟨hne, hdays, (readSet_countUpTo?_spec hread).2⟩
  · exact absurd h (by simp)

/-- A kind is named by its letter. -/
theorem Kind.ofToken?_letter (kind : Kind) : ofToken? [kind.letter] = some kind := by
  cases kind <;> rfl

/-- A text whose first word names a kind is read by that kind. -/
theorem parse_eq_readArguments {text : String} (kind : Kind) {arguments : List (List Char)}
    (hwords : Text.IsSplit ' ' text.toList ([kind.letter] :: arguments)) :
    parse text = readArguments text kind arguments := by
  have hsplit := Text.isSplit_iff.1 hwords
  have hne : text ≠ "" := by
    rintro rfl
    simp at hsplit
  simp only [parse, if_neg hne, hsplit, Kind.ofToken?_letter]

/-- A text that is read gives a well-formed rule. -/
theorem wellFormed_of_parse {text : String} {rule : Rule} (h : parse text = .ok rule) :
    rule.WellFormed := by
  unfold parse at h
  split at h
  · exact absurd h (by simp)
  · split at h
    · exact absurd h (by simp)
    · split at h
      · exact absurd h (by simp)
      · exact wellFormed_of_readArguments h

end Rule

end Agenda
