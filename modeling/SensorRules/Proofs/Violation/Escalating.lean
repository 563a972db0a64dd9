import Mathlib.Data.List.TakeWhile
import SensorRules.Proofs.Rule.Levels
import SensorRules.Proofs.Time.Order
import SensorRules.Proofs.Violation.Ending
import SensorRules.Proofs.Violation.Showing

/-!
Escalation over time: while a violation lasts, its levels do not fall back.

* `Boundary.Chosen`, `Boundary.chosen_of_choose`: which entry counts, among entries in ascending
  order;
* `Levels.keyOf`, `Levels.escalationAt_keyOf`: the seconds of the level from which a half of the
  escalation is taken, and that the levels at these seconds say what the escalation is;
* `Levels.keyOf_mono`: these seconds do not fall with the time that has passed;
* `Levels.keyOf_adjacent`: for the level passed they are not above those for the level reached, and
  there is no level in between;
* `Tracker.escalation_keeps_up`: over any rounds, the issues of a violation that lasts do not fall
  back to lower levels, outside leap seconds;
* `Tracker.escalation_falls_back`: after a leap second they may.
-/

namespace SensorRules

open Time (Instant)

variable {α : Type}

/-! ### The entry that counts -/

namespace Boundary

variable {entries : List (Nat × α)} {x y z : Nat × α} {e e' : Nat} {b : Boundary}

/-- Entries in ascending order of their seconds. -/
def Ascending (entries : List (Nat × α)) : Prop :=
  entries.Pairwise fun x y => x.1 < y.1

/-- What makes an entry count after `e` seconds. -/
inductive Chosen (e : Nat) (entries : List (Nat × α)) (x : Nat × α) : Boundary → Prop
  /-- It is the last one that has been passed. -/
  | passed : x ∈ entries → x.1 < e → (∀ y ∈ entries, y.1 < e → y.1 ≤ x.1) →
      Chosen e entries x previousHook
  /-- None has been passed, and it is the first. -/
  | first : x ∈ entries → (∀ y ∈ entries, e ≤ y.1) → (∀ y ∈ entries, x.1 ≤ y.1) →
      Chosen e entries x previousHook
  /-- It is the first one that has been reached or comes next. -/
  | reached : x ∈ entries → e ≤ x.1 → (∀ y ∈ entries, e ≤ y.1 → x.1 ≤ y.1) →
      Chosen e entries x matchedKey
  /-- All have been passed, and it is the last. -/
  | last : x ∈ entries → (∀ y ∈ entries, y.1 < e) → (∀ y ∈ entries, y.1 ≤ x.1) →
      Chosen e entries x matchedKey

lemma Chosen.mem (h : Chosen e entries x b) : x ∈ entries := by
  cases h <;> assumption

lemma le_of_mem_ahead (h : Ascending entries) (hy : y ∈ entries.dropWhile (·.1 < e)) :
    e ≤ y.1 := by
  have hahead : Ascending (entries.dropWhile (·.1 < e)) := h.sublist (List.dropWhile_sublist _)
  have hhead := List.head?_dropWhile_not (fun y : Nat × α => decide (y.1 < e)) entries
  cases hdrop : entries.dropWhile (·.1 < e) with
  | nil => simp [hdrop] at hy
  | cons z zs =>
      rw [hdrop] at hy hahead hhead
      have hz : e ≤ z.1 := by simpa using hhead
      rcases List.mem_cons.mp hy with rfl | hy
      · exact hz
      · exact hz.trans (Nat.le_of_lt ((List.pairwise_cons.mp hahead).1 y hy))

lemma mem_passed_or_ahead (e : Nat) (hy : y ∈ entries) :
    y ∈ entries.takeWhile (·.1 < e) ∨ y ∈ entries.dropWhile (·.1 < e) := by
  rwa [← List.mem_append, List.takeWhile_append_dropWhile]

/-- The entries that have been passed. -/
lemma mem_passed (h : Ascending entries) :
    y ∈ entries.takeWhile (·.1 < e) ↔ y ∈ entries ∧ y.1 < e := by
  have hlt : y ∈ entries.takeWhile (·.1 < e) → y.1 < e := fun hy => by
    simpa using List.mem_takeWhile_imp hy
  refine ⟨fun hy => ⟨(List.takeWhile_sublist _).subset hy, hlt hy⟩, fun ⟨hy, hpassed⟩ => ?_⟩
  refine (mem_passed_or_ahead e hy).resolve_right fun hahead => ?_
  exact absurd hpassed (Nat.not_lt.mpr (le_of_mem_ahead h hahead))

/-- The entries that lie ahead. -/
lemma mem_ahead (h : Ascending entries) :
    y ∈ entries.dropWhile (·.1 < e) ↔ y ∈ entries ∧ e ≤ y.1 := by
  refine ⟨fun hy => ⟨(List.dropWhile_sublist _).subset hy, le_of_mem_ahead h hy⟩, ?_⟩
  rintro ⟨hy, hle⟩
  refine (mem_passed_or_ahead e hy).resolve_left fun hpassed => ?_
  exact absurd ((mem_passed h).mp hpassed).2 (Nat.not_lt.mpr hle)

lemma head?_le (h : Ascending entries) (hx : entries.head? = some x) (hy : y ∈ entries) :
    x.1 ≤ y.1 := by
  obtain ⟨rest, rfl⟩ := List.head?_eq_some_iff.mp hx
  rcases List.mem_cons.mp hy with rfl | hy
  · exact Nat.le_refl _
  · exact Nat.le_of_lt ((List.pairwise_cons.mp h).1 y hy)

lemma le_getLast? (h : Ascending entries) (hx : entries.getLast? = some x) (hy : y ∈ entries) :
    y.1 ≤ x.1 := by
  obtain ⟨before, rfl⟩ := List.getLast?_eq_some_iff.mp hx
  rcases List.mem_append.mp hy with hy | hy
  · exact Nat.le_of_lt ((List.pairwise_append.mp h).2.2 y hy x List.mem_cons_self)
  · rw [List.mem_singleton.mp hy]

/-- **The entry that counts** is the one that its boundary describes. -/
theorem chosen_of_choose (h : Ascending entries) (hx : b.choose e entries = some x) :
    Chosen e entries x b := by
  have hpassed : Ascending (entries.takeWhile (·.1 < e)) := h.sublist (List.takeWhile_sublist _)
  have hahead : Ascending (entries.dropWhile (·.1 < e)) := h.sublist (List.dropWhile_sublist _)
  cases b with
  | previousHook =>
      rw [choose, Option.or_eq_some_iff] at hx
      rcases hx with hx | ⟨hnone, hx⟩
      · obtain ⟨hmem, hlt⟩ := (mem_passed h).mp (List.mem_of_getLast? hx)
        refine .passed hmem hlt fun y hy hlt => ?_
        exact le_getLast? hpassed hx ((mem_passed h).mpr ⟨hy, hlt⟩)
      · obtain ⟨hmem, -⟩ := (mem_ahead h).mp (List.mem_of_head? hx)
        have hall : ∀ y ∈ entries, e ≤ y.1 := by
          intro y hy
          by_contra hlt
          have hmem := (mem_passed h).mpr ⟨hy, Nat.lt_of_not_le hlt⟩
          rw [List.getLast?_eq_none_iff.mp hnone] at hmem
          exact List.not_mem_nil hmem
        refine .first hmem hall fun y hy => ?_
        exact head?_le hahead hx ((mem_ahead h).mpr ⟨hy, hall y hy⟩)
  | matchedKey =>
      rw [choose, Option.or_eq_some_iff] at hx
      rcases hx with hx | ⟨hnone, hx⟩
      · obtain ⟨hmem, hle⟩ := (mem_ahead h).mp (List.mem_of_head? hx)
        refine .reached hmem hle fun y hy hle => ?_
        exact head?_le hahead hx ((mem_ahead h).mpr ⟨hy, hle⟩)
      · obtain ⟨hmem, -⟩ := (mem_passed h).mp (List.mem_of_getLast? hx)
        have hall : ∀ y ∈ entries, y.1 < e := by
          intro y hy
          by_contra hle
          have hmem := (mem_ahead h).mpr ⟨hy, Nat.le_of_not_lt hle⟩
          rw [List.head?_eq_none_iff.mp hnone] at hmem
          exact List.not_mem_nil hmem
        refine .last hmem hall fun y hy => ?_
        exact le_getLast? hpassed hx ((mem_passed h).mpr ⟨hy, hall y hy⟩)

/-- No entry counts only if there is none. -/
lemma choose_eq_none_iff : b.choose e entries = none ↔ entries = [] := by
  have hsplit : entries = [] ↔
      entries.takeWhile (·.1 < e) = [] ∧ entries.dropWhile (·.1 < e) = [] := by
    rw [← List.append_eq_nil_iff, List.takeWhile_append_dropWhile]
  cases b <;>
    rw [hsplit, choose, Option.or_eq_none_iff, List.getLast?_eq_none_iff, List.head?_eq_none_iff]
  exact and_comm

/-- The entry that counts later does not come before the one that counts earlier. -/
lemma Chosen.mono (hx : Chosen e entries x b) (hy : Chosen e' entries y b) (hle : e ≤ e') :
    x.1 ≤ y.1 := by
  cases hx with
  | passed hmem hlt _ =>
      cases hy with
      | passed _ _ hlast => exact hlast x hmem (by omega)
      | first _ hahead _ => have := hahead x hmem; omega
  | first _ _ hfirst => exact hfirst y hy.mem
  | reached hmem _ hnext =>
      cases hy with
      | reached hmem' hle' _ => exact hnext y hmem' (by omega)
      | last _ _ hlast => exact hlast x hmem
  | last hmem hpassed _ =>
      cases hy with
      | reached hmem' hle' _ => have := hpassed y hmem'; omega
      | last _ _ hlast => exact hlast x hmem

/-- The entry passed is not after the one reached, and none lies between them. -/
lemma Chosen.adjacent (hx : Chosen e entries x previousHook) (hy : Chosen e entries y matchedKey) :
    x.1 ≤ y.1 ∧ ∀ z ∈ entries, ¬ (x.1 < z.1 ∧ z.1 < y.1) := by
  cases hx with
  | passed hmem hlt hlast =>
      refine ⟨?_, fun z hz hbetween => ?_⟩
      · cases hy with
        | reached _ hle _ => omega
        | last _ _ hall => exact hall x hmem
      · -- An entry in between has not been passed, so it would be the one that is reached.
        have hahead : e ≤ z.1 := by
          by_contra hpassed
          have := hlast z hz (by omega)
          omega
        cases hy with
        | reached _ _ hnext => have := hnext z hz hahead; omega
        | last _ hall _ => have := hall z hz; omega
  | first hmem hahead hfirst =>
      have hle : y.1 ≤ x.1 := by
        cases hy with
        | reached _ _ hnext => exact hnext x hmem (hahead x hmem)
        | last _ hall _ =>
            have := hall x hmem
            have := hahead x hmem
            omega
      exact ⟨hfirst y hy.mem, fun z hz hbetween => by omega⟩

end Boundary

/-! ### The levels of a rule -/

namespace Levels

variable {half : Level → Option α} {levels : Levels} {b : Boundary} {e e' k k' : Nat}

/-- The seconds of the level from which a half of the escalation is taken after `e` seconds. -/
def keyOf (half : Level → Option α) (levels : Levels) (b : Boundary) (e : Nat) : Option Nat :=
  (b.choose e (levels.entriesOf half)).map (·.1)

lemma ascending_entriesOf : Boundary.Ascending (levels.entriesOf half) := by
  refine levels.ordered_keys_toList.filterMap _ fun x y hlt x' hx y' hy => ?_
  obtain ⟨_, _, rfl⟩ := Option.map_eq_some_iff.mp hx
  obtain ⟨_, _, rfl⟩ := Option.map_eq_some_iff.mp hy
  exact Nat.compare_eq_lt.mp hlt

lemma exists_chosen_of_keyOf (h : levels.keyOf half b e = some k) :
    ∃ a, Boundary.Chosen e (levels.entriesOf half) (k, a) b := by
  obtain ⟨⟨_, a⟩, hx, rfl⟩ := Option.map_eq_some_iff.mp h
  exact ⟨a, Boundary.chosen_of_choose ascending_entriesOf hx⟩

lemma keyOf_eq_none_iff : levels.keyOf half b e = none ↔ levels.entriesOf half = [] := by
  rw [keyOf, Option.map_eq_none_iff, Boundary.choose_eq_none_iff]

/-- Two keys of one half are there or not, whatever the time and the boundary. -/
lemma rel_keyOf {r : Nat → Nat → Prop} {b' : Boundary}
    (h : ∀ k k', levels.keyOf half b e = some k → levels.keyOf half b' e' = some k' → r k k') :
    Option.Rel r (levels.keyOf half b e) (levels.keyOf half b' e') := by
  cases hk : levels.keyOf half b e with
  | none =>
      have hk' : levels.keyOf half b' e' = none :=
        keyOf_eq_none_iff.mpr (keyOf_eq_none_iff.mp hk)
      rw [hk']
      exact .none
  | some k =>
      cases hk' : levels.keyOf half b' e' with
      | none =>
          rw [keyOf_eq_none_iff.mpr (keyOf_eq_none_iff.mp hk')] at hk
          cases hk
      | some k' => exact .some (h k k' hk hk')

/-- **Over time** the level that counts does not fall back. -/
theorem keyOf_mono (hle : e ≤ e') :
    Option.Rel (· ≤ ·) (levels.keyOf half b e) (levels.keyOf half b e') := by
  refine rel_keyOf fun k k' hk hk' => ?_
  obtain ⟨a, ha⟩ := exists_chosen_of_keyOf hk
  obtain ⟨a', ha'⟩ := exists_chosen_of_keyOf hk'
  exact ha.mono ha' hle

/-- **The two boundaries**: the level passed is not above the level reached, and no level with this
half lies between them. -/
theorem keyOf_adjacent : Option.Rel
    (fun k k' => k ≤ k' ∧ ∀ n, (levels[n]?.bind half).isSome → ¬ (k < n ∧ n < k'))
    (levels.keyOf half .previousHook e) (levels.keyOf half .matchedKey e) := by
  refine rel_keyOf fun k k' hk hk' => ?_
  obtain ⟨a, ha⟩ := exists_chosen_of_keyOf hk
  obtain ⟨a', ha'⟩ := exists_chosen_of_keyOf hk'
  obtain ⟨hle, hbetween⟩ := ha.adjacent ha'
  refine ⟨hle, fun n hn => ?_⟩
  obtain ⟨level, hlevel, hhalf⟩ := Option.bind_eq_some_iff.mp (Option.get_mem hn)
  exact hbetween (n, _) (mem_entriesOf_iff_exists.mpr ⟨level, hlevel, hhalf⟩)

/-- What is said at the level that counts is the half of the entry that counts. -/
lemma half_keyOf (hhalf : half ⟨none, none⟩ = none) :
    ((levels.keyOf half b e).bind fun k => half (levels.level k)) =
      (b.choose e (levels.entriesOf half)).map (·.2) := by
  rw [keyOf]
  cases hx : b.choose e (levels.entriesOf half) with
  | none => rfl
  | some x =>
      have hmem := (Boundary.chosen_of_choose ascending_entriesOf hx).mem
      exact (mem_entriesOf hhalf).mp hmem

/-- What the levels at two numbers of seconds say, the first with its message and the second with
its groups. -/
def escalationAt (levels : Levels) (message groups : Option Nat) : Escalation where
  message := message.bind fun k => (levels.level k).message
  notifyGroups := (groups.bind fun k => (levels.level k).notifyGroups).getD ∅

/-- The escalation is what the levels that count say. -/
lemma escalationAt_keyOf : levels.escalationAt (levels.keyOf Level.message b e)
    (levels.keyOf Level.notifyGroups b e) = Escalation.of levels e b := by
  rw [escalationAt, half_keyOf rfl, half_keyOf rfl]
  rfl

end Levels

/-! ### Issues of a violation that lasts -/

/-- An issue says what the levels say that count after the time that it has lasted. -/
def Issue.Says (i : Issue) (levels : Levels) (b : Boundary) : Prop :=
  let escalation := levels.escalationAt (levels.keyOf Level.message b i.durationSecs)
    (levels.keyOf Level.notifyGroups b i.durationSecs)
  i.message = escalation.messageFor i.ruleName ∧ i.notifyGroups = escalation.notifyGroups

namespace Tracker

variable {t : Tracker} {p q : Round} {later : List Round} {n m : RuleNode} {x y : Issue}
  {g : RuleGraph} {now : Instant}

/-- An issue is that of the rule and the violation of its name. -/
lemma exists_of_mem_issues (hx : x ∈ t.issues g now) (hn : g.node? x.ruleName = some n) :
    ∃ d, t.records[x.ruleName]? = some d ∧ t.issue n.rule d now = x := by
  obtain ⟨name, d, n', hd, hn', rfl⟩ := mem_issues.mp hx
  have hname : n'.name = name := by simpa using List.find?_some hn'
  obtain rfl : n'.rule.name = name := hname
  obtain rfl := Option.some.inj (hn'.symm.trans hn)
  exact ⟨d, hd, rfl⟩

lemma says_of_mem_issues (hx : x ∈ t.issues g now) (hn : g.node? x.ruleName = some n) :
    x.Says n.rule.levels t.boundary := by
  obtain ⟨d, -, rfl⟩ := exists_of_mem_issues hx hn
  rw [Issue.Says, Levels.escalationAt_keyOf]
  exact ⟨rfl, rfl⟩

lemma durationSecs_of_mem_issues (hx : x ∈ t.issues g now) :
    x.durationSecs = now.elapsedSince x.since := by
  obtain ⟨_, _, _, _, _, rfl⟩ := mem_issues.mp hx
  rfl

/-- While a rule fails, the issues of its violation are all since one instant. -/
lemma since_eq_of_fails (hx : x ∈ (t.follow p).issues p.graph p.now)
    (hy : y ∈ ((t.follow p).followAll later).issues q.graph q.now)
    (hname : y.ruleName = x.ruleName) (hn : p.graph.node? x.ruleName = some n)
    (hm : q.graph.node? y.ruleName = some m) (hfails : ∀ r ∈ later, r.Fails x.ruleName) :
    y.since = x.since := by
  obtain ⟨d, hd, rfl⟩ := exists_of_mem_issues hx hn
  obtain ⟨d', hd', rfl⟩ := exists_of_mem_issues hy hm
  obtain ⟨d'', hd'', hsince⟩ := since_followAll hd hfails
  rw [hname, hd''] at hd'
  obtain rfl := Option.some.inj hd'
  exact hsince

/-- **Escalation keeps up.** An escalation is what two levels say, one for each half. For every half
of levels, the level from which it is taken does not fall with the time that has passed. After one
time, the level passed is not above the level reached, and no level with this half lies between
them. So, for two rounds in any run between which a rule with these levels fails without a break,
its two issues are since one instant, each says what the levels say that count after the time that
it has lasted, and those of the later issue are not lower. Neither the rounds nor the beginning of
the violation may lie in a leap second. -/
theorem escalation_keeps_up (levels : Levels) (b : Boundary) :
    (∀ e, levels.escalationAt (levels.keyOf Level.message b e)
      (levels.keyOf Level.notifyGroups b e) = Escalation.of levels e b) ∧
    (∀ {α : Type} (half : Level → Option α) (e e' : Nat), e ≤ e' →
      Option.Rel (· ≤ ·) (levels.keyOf half b e) (levels.keyOf half b e')) ∧
    (∀ {α : Type} (half : Level → Option α) (e : Nat), Option.Rel
      (fun k k' => k ≤ k' ∧ ∀ n, (levels[n]?.bind half).isSome → ¬ (k < n ∧ n < k'))
      (levels.keyOf half .previousHook e) (levels.keyOf half .matchedKey e)) ∧
    ∀ (t : Tracker) (p q : Round) (between : List Round) (n m : RuleNode) (x y : Issue),
      t.boundary = b →
      x ∈ (t.follow p).issues p.graph p.now →
      y ∈ ((t.follow p).followAll (between ++ [q])).issues q.graph q.now →
      y.ruleName = x.ruleName →
      (∀ r ∈ between ++ [q], r.Fails x.ruleName) →
      p.graph.node? x.ruleName = some n → n.rule.levels = levels →
      q.graph.node? y.ruleName = some m → m.rule.levels = levels →
      p.now ≤ q.now →
      ¬ x.since.InLeapSecond → ¬ p.now.InLeapSecond → ¬ q.now.InLeapSecond →
      y.since = x.since ∧ x.Says levels b ∧ y.Says levels b ∧
      ∀ {α : Type} (half : Level → Option α), Option.Rel (· ≤ ·)
        (levels.keyOf half b x.durationSecs) (levels.keyOf half b y.durationSecs) := by
  refine ⟨fun e => Levels.escalationAt_keyOf, fun half e e' => Levels.keyOf_mono,
    fun half e => Levels.keyOf_adjacent, ?_⟩
  rintro t p q between n m x y rfl hx hy hname hfails hn rfl hm hlevels htime hsince hp hq
  have hsame : y.since = x.since := since_eq_of_fails hx hy hname hn hm hfails
  have hxsays := says_of_mem_issues hx hn
  have hysays := says_of_mem_issues hy hm
  rw [boundary_follow] at hxsays
  rw [boundary_followAll, boundary_follow, hlevels] at hysays
  refine ⟨hsame, hxsays, hysays, fun half => Levels.keyOf_mono ?_⟩
  rw [durationSecs_of_mem_issues hx, durationSecs_of_mem_issues hy, hsame]
  exact Instant.elapsedSince_mono hsince hp hq htime

/-! ### At the turn of a year -/

/-- A door of which more is said when it has been open for 59 seconds. -/
def ajarRule : Rule where
  name := "Ajar"
  expression := ""
  sensorNames := ∅
  viewPermissions := ∅
  requiredTrue := ∅
  orRules := ∅
  okMessage := ""
  levels := (Levels.setMessage ∅ 0 "ajar").setMessage 59 "left ajar"
  invisible := false
  priority := 0
  relatedLogs := ∅

/-- The rule in its graph. -/
def ajarNode : RuleNode :=
  ⟨ajarRule, .aggregate, [], []⟩

/-- A round in which the door is open. -/
def ajarAt (now : Instant) : Round :=
  ⟨RuleGraph.ofRules [ajarRule], Std.ExtTreeMap.ofList [("Ajar", Verdict.violated ∅)], now⟩

/-- 2026-12-31T23:59:00.500Z -/
def lastMinute : Instant :=
  ⟨1798761540, 500000000, by decide⟩

/-- 2026-12-31T23:59:60.500Z -/
def leapSecond : Instant :=
  ⟨1798761599, 1500000000, by decide⟩

/-- 2027-01-01T00:00:00Z -/
def newYear : Instant :=
  ⟨1798761600, 0, by decide⟩

/-- 2027-01-01T00:00:01Z -/
def afterNewYear : Instant :=
  ⟨1798761601, 0, by decide⟩

lemma node?_ajarAt (now : Instant) : (ajarAt now).graph.node? "Ajar" = some ajarNode := by
  have hgraph : (RuleGraph.ofRules [ajarRule]).node? "Ajar" = some ajarNode := by decide +kernel
  exact hgraph

lemma fails_ajarAt (now : Instant) : (ajarAt now).Fails "Ajar" := by
  have hshows : (ajarAt .epoch).Shows "Ajar" := by decide +kernel
  have hverdict : (ajarAt .epoch).states["Ajar"]? = some (Verdict.violated ∅) := by decide +kernel
  exact ⟨hshows, _, hverdict, rfl⟩

/-- Without a leap second, more is said of the door once it has been open for a minute. -/
theorem escalation_keeps_up_ajar :
    let t := new 1 .previousHook
    let p := ajarAt lastMinute
    let q := ajarAt afterNewYear
    let x := t.issue ajarRule ⟨lastMinute, ∅⟩ lastMinute
    let y := t.issue ajarRule ⟨lastMinute, ∅⟩ afterNewYear
    x ∈ (t.follow p).issues p.graph p.now ∧
      y ∈ ((t.follow p).followAll ([ajarAt newYear] ++ [q])).issues q.graph q.now ∧
      (x.message, y.message) = ("ajar", "left ajar") ∧ y.since = x.since ∧
      Option.Rel (· ≤ ·) (ajarRule.levels.keyOf Level.message .previousHook x.durationSecs)
        (ajarRule.levels.keyOf Level.message .previousHook y.durationSecs) := by
  intro t p q x y
  have hx : (t.follow p).issues p.graph p.now = [x] := by decide +kernel
  have hy : ((t.follow p).followAll ([ajarAt newYear] ++ [q])).issues q.graph q.now = [y] := by
    decide +kernel
  have hxmem : x ∈ (t.follow p).issues p.graph p.now := hx ▸ List.mem_cons_self
  have hymem : y ∈ ((t.follow p).followAll ([ajarAt newYear] ++ [q])).issues q.graph q.now :=
    hy ▸ List.mem_cons_self
  have hfails : ∀ r ∈ [ajarAt newYear] ++ [q], r.Fails x.ruleName := by
    intro r hr
    rcases List.mem_cons.mp hr with rfl | hr
    · exact fails_ajarAt newYear
    · exact List.mem_singleton.mp hr ▸ fails_ajarAt afterNewYear
  have htime : p.now ≤ q.now := Instant.le_iff.mpr (.inl (by decide))
  obtain ⟨-, -, -, hruns⟩ := escalation_keeps_up ajarRule.levels .previousHook
  obtain ⟨hsince, -, -, hlevels⟩ := hruns t p q [ajarAt newYear] ajarNode ajarNode x y rfl hxmem
    hymem rfl hfails (node?_ajarAt lastMinute) rfl (node?_ajarAt afterNewYear) rfl htime
    (by decide) (by decide) (by decide)
  exact ⟨hxmem, hymem, by decide +kernel, hsince, hlevels Level.message⟩

/-- **Over a leap second** escalation may fall back. The door has been open for 60 seconds when the
leap second is half over, and for 59 when the year begins, since the leap second counts only as long
as it lasts. -/
theorem escalation_falls_back :
    let t := new 1 .previousHook
    let p := ajarAt leapSecond
    let q := ajarAt newYear
    let x := t.issue ajarRule ⟨lastMinute, ∅⟩ leapSecond
    let y := t.issue ajarRule ⟨lastMinute, ∅⟩ newYear
    lastMinute ≤ p.now ∧ p.now ≤ q.now ∧ q.Fails "Ajar" ∧
      (t.followAll [ajarAt lastMinute, p]).issues p.graph p.now = [x] ∧
      (t.followAll [ajarAt lastMinute, p, q]).issues q.graph q.now = [y] ∧
      (x.durationSecs, x.message) = (60, "left ajar") ∧ (y.durationSecs, y.message) = (59, "ajar") ∧
      ¬ Option.Rel (· ≤ ·) (ajarRule.levels.keyOf Level.message .previousHook x.durationSecs)
        (ajarRule.levels.keyOf Level.message .previousHook y.durationSecs) := by
  intro t p q x y
  have hx : ajarRule.levels.keyOf Level.message .previousHook x.durationSecs = some 59 := by
    decide +kernel
  have hy : ajarRule.levels.keyOf Level.message .previousHook y.durationSecs = some 0 := by
    decide +kernel
  refine ⟨Instant.le_iff.mpr (.inl (by decide)), Instant.le_iff.mpr (.inl (by decide)),
    fails_ajarAt newYear, by decide +kernel, by decide +kernel, by decide +kernel,
    by decide +kernel, ?_⟩
  rw [hx, hy, Option.rel_some_some]
  decide

end Tracker

end SensorRules
