import Mathlib.Data.List.TakeWhile
import SensorRules.Text.Blank

/-!
The words of a text.

* `Text.Split`: some words are the longest stretches without a blank among some characters;
* `Text.exists_split`, `Text.Split.eq_stretches`: every list of characters splits in just one way;
* `Text.split_iff`: a text splits into its words.
-/

namespace SensorRules.Text

variable {w : List Char} {rest : List Char} {cs : List Char} {ws : List String} {s : String}

/-- The words are the longest stretches without a blank, in order. -/
inductive Split : List Char → List String → Prop
  | nil : Split [] []
  | blank {c : Char} {cs : List Char} {ws : List String} :
      isBlank c = true → Split cs ws → Split (c :: cs) ws
  | word {w : String} {rest : List Char} {ws : List String} :
      w ≠ "" → (∀ c ∈ w.toList, isBlank c = false) → (∀ c ∈ rest.head?, isBlank c = true) →
      Split rest ws → Split (w.toList ++ rest) (w :: ws)

/-- A stretch without a blank stays together up to the next blank. -/
lemma splitAtBlanks_append (hw : ∀ c ∈ w, isBlank c = false)
    (hrest : ∀ c ∈ rest.head?, isBlank c = true) :
    ∃ more, splitAtBlanks rest = [] :: more ∧ splitAtBlanks (w ++ rest) = w :: more := by
  induction w with
  | nil =>
      cases rest with
      | nil => exact ⟨[], rfl, rfl⟩
      | cons c rest =>
          have hsplit : splitAtBlanks (c :: rest) = [] :: splitAtBlanks rest := by
            rw [splitAtBlanks, if_pos (hrest c rfl)]
          exact ⟨splitAtBlanks rest, hsplit, hsplit⟩
  | cons c w ih =>
      obtain ⟨more, hmore, hsplit⟩ := ih fun d hd => hw d (List.mem_cons_of_mem c hd)
      have hc : ¬ isBlank c = true := by simp [hw c List.mem_cons_self]
      refine ⟨more, hmore, ?_⟩
      rw [List.cons_append, splitAtBlanks, if_neg hc, hsplit]

/-- The stretches between blanks that are not empty. -/
def stretches (cs : List Char) : List String :=
  ((splitAtBlanks cs).filter (!·.isEmpty)).map String.ofList

lemma stretches_blank {c : Char} (hc : isBlank c = true) : stretches (c :: cs) = stretches cs := by
  rw [stretches, splitAtBlanks, if_pos hc]
  rfl

lemma stretches_word {w : String} (hne : w ≠ "") (hw : ∀ c ∈ w.toList, isBlank c = false)
    (hrest : ∀ c ∈ rest.head?, isBlank c = true) :
    stretches (w.toList ++ rest) = w :: stretches rest := by
  obtain ⟨more, hmore, hsplit⟩ := splitAtBlanks_append hw hrest
  have hempty : stretches rest = (more.filter (!·.isEmpty)).map String.ofList := by
    rw [stretches, hmore]
    rfl
  have hkeep : (!w.toList.isEmpty) = true := by simpa using hne
  rw [hempty, stretches, hsplit, List.filter_cons, if_pos hkeep, List.map_cons,
    String.ofList_toList]

lemma Split.eq_stretches (h : Split cs ws) : ws = stretches cs := by
  induction h with
  | nil => rfl
  | blank hc _ ih => rw [stretches_blank hc, ih]
  | word hne hw hrest _ ih => rw [stretches_word hne hw hrest, ih]

/-- Every list of characters splits into words. -/
lemma exists_split (cs : List Char) : ∃ ws, Split cs ws := by
  induction hn : cs.length using Nat.strongRecOn generalizing cs with
  | _ n ih =>
      cases cs with
      | nil => exact ⟨[], .nil⟩
      | cons c cs =>
          subst hn
          cases hc : isBlank c with
          | true =>
              obtain ⟨ws, hws⟩ := ih cs.length (by simp) cs rfl
              exact ⟨ws, .blank hc hws⟩
          | false =>
              -- The word that begins here goes as far as there is no blank.
              let w := cs.takeWhile (!isBlank ·)
              let rest := cs.dropWhile (!isBlank ·)
              have hparts : w ++ rest = cs := List.takeWhile_append_dropWhile
              have hlength : rest.length < (c :: cs).length := by
                have hle : rest.length ≤ cs.length := (List.dropWhile_sublist _).length_le
                simp only [List.length_cons]
                omega
              have hw : ∀ d ∈ c :: w, isBlank d = false := by
                intro d hd
                rcases List.mem_cons.mp hd with rfl | hd
                · exact hc
                · simpa using List.mem_takeWhile_imp hd
              have hrest : ∀ d ∈ rest.head?, isBlank d = true := by
                intro d hd
                have hhead := List.head?_dropWhile_not (!isBlank ·) cs
                rw [Option.mem_def.mp hd] at hhead
                simpa using hhead
              obtain ⟨ws, hws⟩ := ih rest.length hlength rest rfl
              refine ⟨String.ofList (c :: w) :: ws, ?_⟩
              have hsplit := Split.word (w := String.ofList (c :: w)) (by simp) (by simpa using hw)
                hrest hws
              rwa [String.toList_ofList, List.cons_append, hparts] at hsplit

/-- A text splits into its words, and in no other way. -/
lemma split_iff : Split s.toList ws ↔ ws = words s := by
  refine ⟨Split.eq_stretches, ?_⟩
  rintro rfl
  obtain ⟨ws, hws⟩ := exists_split s.toList
  have heq : ws = words s := hws.eq_stretches
  exact heq ▸ hws

end SensorRules.Text
