import Mathlib.Data.List.TakeWhile
import SensorRules.Text.Blank

/-!
Texts without blanks at their ends.

* `Text.isBlank_of_isDigit`: a digit is none;
* `Text.trim_eq_self`: such a text is left as it is;
* `Text.trim_trim`: what is left of a text is such a text;
* `Text.Trims`: a text is another one with blanks around it, and `Text.trims_iff`: the other one is
  what is left of it.
-/

namespace SensorRules.Text

variable {c : Char} {cs front : List Char} {s body : String}

/-- A digit is not blank. -/
lemma isBlank_of_isDigit (h : c.isDigit) : isBlank c = false := by
  have hc : 0x30 ≤ c.toNat ∧ c.toNat ≤ 0x39 := by
    simp only [Char.isDigit, Bool.and_eq_true, decide_eq_true_eq, UInt32.le_iff_toNat_le] at h
    exact h
  simp [isBlank, inRanges, blankRanges]
  omega

lemma skipBlanks_eq_self (h : ∀ c ∈ cs.head?, isBlank c = false) : skipBlanks cs = cs := by
  cases cs with
  | nil => rfl
  | cons c cs => exact List.dropWhile_cons_of_neg (by rw [h c rfl]; decide)

lemma isBlank_of_head?_skipBlanks (h : c ∈ (skipBlanks cs).head?) : isBlank c = false := by
  have hhead := List.head?_dropWhile_not isBlank cs
  rw [skipBlanks] at h
  rwa [Option.mem_def.mp h] at hhead

lemma getLast?_skipBlanks (h : c ∈ (skipBlanks cs).getLast?) : c ∈ cs.getLast? := by
  obtain ⟨front, hfront⟩ := List.dropWhile_suffix (l := cs) isBlank
  rw [← hfront, List.getLast?_append, ← skipBlanks, Option.mem_def.mp h]
  rfl

/-- A text without a blank at its ends is left as it is. -/
lemma trim_eq_self (hfirst : ∀ c ∈ s.toList.head?, isBlank c = false)
    (hlast : ∀ c ∈ s.toList.getLast?, isBlank c = false) : trim s = s := by
  rw [trim, skipBlanks_eq_self hfirst, skipBlanks_eq_self, List.reverse_reverse,
    String.ofList_toList]
  rwa [List.head?_reverse]

lemma isBlank_of_head?_trim (h : c ∈ (trim s).toList.head?) : isBlank c = false := by
  rw [trim, String.toList_ofList, List.head?_reverse] at h
  have hlast := getLast?_skipBlanks h
  rw [List.getLast?_reverse] at hlast
  exact isBlank_of_head?_skipBlanks hlast

lemma isBlank_of_getLast?_trim (h : c ∈ (trim s).toList.getLast?) : isBlank c = false := by
  rw [trim, String.toList_ofList, List.getLast?_reverse] at h
  exact isBlank_of_head?_skipBlanks h

/-- A text that blanks have been taken off has none at its ends. -/
@[simp]
lemma trim_trim : trim (trim s) = trim s :=
  trim_eq_self (fun _ => isBlank_of_head?_trim) fun _ => isBlank_of_getLast?_trim

/-! ### Blanks around a text -/

/-- The characters of a text are those of `body` with blanks before and after them, and `body` has
no blank at its ends. -/
structure Trims (s body : String) : Prop where
  around : ∃ front back, s.toList = front ++ (body.toList ++ back) ∧
    (∀ c ∈ front, isBlank c = true) ∧ ∀ c ∈ back, isBlank c = true
  first : ∀ c ∈ body.toList.head?, isBlank c = false
  last : ∀ c ∈ body.toList.getLast?, isBlank c = false

lemma skipBlanks_append (h : ∀ c ∈ front, isBlank c = true) :
    skipBlanks (front ++ cs) = skipBlanks cs :=
  List.dropWhile_append_of_pos h

lemma exists_append_skipBlanks (cs : List Char) :
    ∃ front, (∀ c ∈ front, isBlank c = true) ∧ cs = front ++ skipBlanks cs :=
  ⟨cs.takeWhile isBlank, fun _ => List.mem_takeWhile_imp, List.takeWhile_append_dropWhile.symm⟩

lemma trims_trim (s : String) : Trims s (trim s) := by
  obtain ⟨front, hfront, hs⟩ := exists_append_skipBlanks s.toList
  obtain ⟨back, hback, hrest⟩ := exists_append_skipBlanks (skipBlanks s.toList).reverse
  refine ⟨⟨front, back.reverse, ?_, hfront, fun c hc => hback c (List.mem_reverse.mp hc)⟩,
    fun _ => isBlank_of_head?_trim, fun _ => isBlank_of_getLast?_trim⟩
  rw [trim, String.toList_ofList, ← List.reverse_append, ← hrest, List.reverse_reverse]
  exact hs

lemma Trims.trim_eq (h : Trims s body) : trim s = body := by
  obtain ⟨front, back, hs, hfront, hback⟩ := h.around
  have hback' : ∀ c ∈ back.reverse, isBlank c = true := fun c hc => hback c (List.mem_reverse.mp hc)
  cases hbody : body.toList with
  | nil =>
      -- There is nothing but blanks, and the first step takes off all of them.
      have hnil : skipBlanks back = [] := by
        rw [← List.append_nil back, skipBlanks_append hback]
        rfl
      rw [trim, hs, skipBlanks_append hfront, hbody, List.nil_append, hnil,
        String.toList_eq_nil_iff.mp hbody]
      rfl
  | cons c cs =>
      have hfirst : skipBlanks (body.toList ++ back) = body.toList ++ back := by
        refine skipBlanks_eq_self fun d hd => h.first d ?_
        rwa [hbody] at hd ⊢
      have hlast : skipBlanks body.toList.reverse = body.toList.reverse := by
        refine skipBlanks_eq_self fun d hd => h.last d ?_
        rwa [List.head?_reverse] at hd
      rw [trim, hs, skipBlanks_append hfront, hfirst, List.reverse_append,
        skipBlanks_append hback', hlast, List.reverse_reverse, String.ofList_toList]

/-- There is one way to take off the blanks around a text. -/
lemma trims_iff : Trims s body ↔ trim s = body :=
  ⟨Trims.trim_eq, fun h => h ▸ trims_trim s⟩

/-- Nothing is left of a text that has nothing but blanks, and of no other. -/
lemma trim_eq_empty_iff : trim s = "" ↔ ∀ c ∈ s.toList, isBlank c = true := by
  rw [← trims_iff]
  constructor
  · intro h c hc
    obtain ⟨front, back, hs, hfront, hback⟩ := h.around
    rw [hs, String.toList_empty, List.nil_append, List.mem_append] at hc
    exact hc.elim (hfront c) (hback c)
  · intro h
    exact ⟨⟨s.toList, [], (List.append_nil s.toList).symm, h, nofun⟩, nofun, nofun⟩

end SensorRules.Text
