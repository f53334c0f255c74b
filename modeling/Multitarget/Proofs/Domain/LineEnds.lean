import Mathlib.Data.List.Infix
import Mathlib.Logic.Function.Iterate
import Multitarget.Domain.Source

/-!
# Line ends of source handles

Making a handle drops each carriage return that a line feed follows. Of several returns in a row
before a line feed only the last is dropped, so the pair stands again in the text of the handle,
and another handle made of that text loses another return. A text is left as it is exactly if it
holds no pair.
-/

namespace Multitarget

namespace Text

/-- Carriage returns in a row with a line feed behind them. -/
def returnsFeed (count : Nat) : List Char :=
  List.replicate count '\r' ++ ['\n']

theorem returnsFeed_zero : returnsFeed 0 = ['\n'] := rfl

theorem returnsFeed_succ (count : Nat) : returnsFeed (count + 1) = '\r' :: returnsFeed count := rfl

/-- A text starts with a line feed after joining if it did before, or if it started with a pair. -/
theorem feed_prefix_joinReturns (text : List Char) :
    returnsFeed 0 <+: joinReturns text ↔ returnsFeed 0 <+: text ∨ returnsFeed 1 <+: text := by
  induction text using joinReturns.induct with
  | case1 => simp [joinReturns, returnsFeed]
  | case2 rest _ => simp [joinReturns, returnsFeed]
  | case3 character rest apart _ =>
      rw [joinReturns]
      · simp only [returnsFeed_succ, returnsFeed_zero, List.cons_prefix_cons, List.nil_prefix,
          and_true]
        constructor
        · exact .inl
        · rintro (feed | ⟨rfl, tail, rfl⟩)
          · exact feed
          · exact (apart _ rfl rfl).elim
      · exact apart

/-- A row of returns at the start of a text loses one. -/
theorem returnsFeed_prefix_joinReturns (count : Nat) (text : List Char) :
    returnsFeed (count + 1) <+: joinReturns text ↔ returnsFeed (count + 2) <+: text := by
  induction text using joinReturns.induct generalizing count with
  | case1 => simp [joinReturns, returnsFeed]
  | case2 rest _ => simp [joinReturns, returnsFeed_succ]
  | case3 character rest apart ih =>
      rw [joinReturns]
      · rw [returnsFeed_succ, returnsFeed_succ (count + 1), List.cons_prefix_cons,
          List.cons_prefix_cons]
        refine and_congr_right fun same => ?_
        cases count with
        | zero =>
            -- The rest cannot start with a line feed, or the two would be a pair.
            rw [feed_prefix_joinReturns]
            refine or_iff_right ?_
            rintro ⟨tail, rfl⟩
            exact apart tail same.symm rfl
        | succ count => exact ih count
      · exact apart

/-- Every row of returns before a line feed loses one. -/
theorem returnsFeed_infix_joinReturns (count : Nat) (text : List Char) :
    returnsFeed (count + 1) <:+: joinReturns text ↔ returnsFeed (count + 2) <:+: text := by
  induction text using joinReturns.induct with
  | case1 => simp [joinReturns, returnsFeed]
  | case2 rest ih =>
      simp only [joinReturns, List.infix_cons_iff, returnsFeed_succ] at ih ⊢
      simpa using ih
  | case3 character rest apart ih =>
      have starts := returnsFeed_prefix_joinReturns count (character :: rest)
      rw [joinReturns] at starts ⊢
      · rw [List.infix_cons_iff, List.infix_cons_iff, starts, ih]
      · exact apart
      · exact apart

theorem joinReturns_eq_self_iff (text : List Char) :
    joinReturns text = text ↔ ¬ returnsFeed 1 <:+: text := by
  induction text using joinReturns.induct with
  | case1 => simp [joinReturns, returnsFeed]
  | case2 rest _ => simp [joinReturns, List.infix_cons_iff, returnsFeed_succ, returnsFeed_zero]
  | case3 character rest apart ih =>
      rw [joinReturns]
      · rw [List.infix_cons_iff, not_or, List.cons_inj_right, ih]
        refine (and_iff_right ?_).symm
        rintro ⟨tail, same⟩
        obtain ⟨first, others⟩ := List.cons.inj same
        exact apart tail first.symm others.symm
      · exact apart

/-- Joining over and over takes as many returns from every row. -/
theorem returnsFeed_infix_iterate (count times : Nat) (text : List Char) :
    returnsFeed (count + 1) <:+: joinReturns^[times] text ↔
      returnsFeed (count + times + 1) <:+: text := by
  induction times generalizing count with
  | zero => rfl
  | succ times ih =>
      rw [Function.iterate_succ_apply', returnsFeed_infix_joinReturns, ih (count + 1),
        Nat.add_right_comm count 1 times, Nat.add_assoc count]

end Text

namespace SourceHandle

theorem toList_normalize_iterate (times : Nat) (text : String) :
    (normalize^[times] text).toList = Text.joinReturns^[times] text.toList := by
  have joins : Function.Semiconj String.toList normalize Text.joinReturns :=
    fun _ => String.toList_ofList
  exact joins.iterate_right times text

theorem normalize_eq_self_iff (text : String) :
    normalize text = text ↔ ¬ Text.returnsFeed 1 <:+: text.toList := by
  rw [← Text.joinReturns_eq_self_iff, ← String.toList_inj, normalize, String.toList_ofList]

/-- A return stands before a line feed in the text of a handle exactly if two do in the text of
the file. Only then has another handle, made of that text, a text of its own; and after any number
of handles, each made of the one before, the pair is left exactly of a longer row of returns. -/
theorem ofFile_keeps_pair_iff (context later : ContextId) (file : ProjectFile) :
    (Text.returnsFeed 1 <:+: (ofFile context file).text.toList ↔
      Text.returnsFeed 2 <:+: file.text.toList) ∧
    ((ofFile later { file with text := (ofFile context file).text }).text =
        (ofFile context file).text ↔
      ¬ Text.returnsFeed 2 <:+: file.text.toList) ∧
    ∀ times, Text.returnsFeed 1 <:+: (normalize^[times] file.text).toList ↔
      Text.returnsFeed (times + 1) <:+: file.text.toList := by
  have stays (times : Nat) : Text.returnsFeed 1 <:+: (normalize^[times] file.text).toList ↔
      Text.returnsFeed (times + 1) <:+: file.text.toList := by
    rw [toList_normalize_iterate, Text.returnsFeed_infix_iterate, Nat.zero_add]
  refine ⟨stays 1, ?_, stays⟩
  exact (normalize_eq_self_iff _).trans (not_congr (stays 1))

/-- Of two returns before a line feed one stays, and goes only with another handle. -/
theorem ofFile_keeps_pair_doubled :
    Text.returnsFeed 1 <:+: (ofFile 0 ⟨"File.kt", "a\r\r\nb"⟩).text.toList ∧
    (ofFile 1 ⟨"File.kt", (ofFile 0 ⟨"File.kt", "a\r\r\nb"⟩).text⟩).text ≠
      (ofFile 0 ⟨"File.kt", "a\r\r\nb"⟩).text := by
  have doubled : Text.returnsFeed 2 <:+: "a\r\r\nb".toList := ⟨['a'], ['b'], by decide⟩
  obtain ⟨stays, settles, _⟩ := ofFile_keeps_pair_iff 0 1 ⟨"File.kt", "a\r\r\nb"⟩
  exact ⟨stays.mpr doubled, fun same => settles.mp same doubled⟩

end SourceHandle

end Multitarget
