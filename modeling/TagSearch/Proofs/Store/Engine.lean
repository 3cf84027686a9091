import TagSearch.Proofs.Store.Index
import TagSearch.Store.Engine

/-!
# What is relied on of an engine

Two facts about a database are relied on (`Engine.IsSound`).  It answers every statement within its
limits, and its way to the rows leads to each row that is found for the condition of the statement.
Nothing is said of a statement beyond the limits, of a row that an index cannot find, or of a way that
another statement would take.

The usual engine is such a database (`Engine.usual_isSound`): the path that it follows leads to a row
that is found for all parts of a conjunction, and for one of several alternatives.
-/

namespace TagSearch

/-- The database keeps to its limits, and it misses no row that its indexes find. -/
structure Engine.IsSound (db : Engine) : Prop where
  answers : ∀ (s : Store) (q : Statement), q.IsWithinLimits → db.answers s q = true
  leadsTo : ∀ (s : Store) (q : Statement), ∀ r ∈ s.rows, q.condition.IsFound q.today r →
    db.leadsTo s q r = true

/-! ## Parts and alternatives of a condition -/

namespace Condition

variable {today : Calendar.Date} {r : Row}

mutual

/-- A row is found for the parts of a conjunction for which it is found. -/
theorem isFound_conjuncts : (c : Condition Value) → c.IsFound today r →
    ∀ d ∈ c.conjuncts, d.IsFound today r
  | .group c, h => by
    rw [conjuncts]
    exact isFound_conjuncts c ⟨by simpa only [truth] using h.holds, by simpa only [likes] using h.found⟩
  | .all cs, h => by
    rw [conjuncts]
    exact isFound_conjunctsOf cs (by simpa only [truth] using h.holds)
      (by simpa only [likes] using h.found)
  | .always, h | .compare .., h | .like .., h | .present _, h | .any _, h => by
    rw [conjuncts]
    · simpa using h
    all_goals simp

theorem isFound_conjunctsOf : (cs : List (Condition Value)) → truthOfAll today r cs = .holds →
    IsFoundByAll r (likesOf cs) → ∀ d ∈ conjunctsOf cs, d.IsFound today r
  | [], _, _ => by simp [conjunctsOf]
  | c :: cs, h, hfound => by
    rw [truthOfAll, Truth.and_eq_holds] at h
    rw [likesOf, isFoundByAll_append] at hfound
    rw [conjunctsOf, List.forall_mem_append]
    exact ⟨isFound_conjuncts c ⟨h.1, hfound.1⟩, isFound_conjunctsOf cs h.2 hfound.2⟩

end

mutual

/-- A row is found for one of the alternatives for which it is found. -/
theorem exists_isFound_alternative : (c : Condition Value) → c.IsFound today r →
    ∃ d ∈ c.alternatives, d.IsFound today r
  | .group c, h => by
    rw [alternatives]
    exact exists_isFound_alternative c
      ⟨by simpa only [truth] using h.holds, by simpa only [likes] using h.found⟩
  | .any cs, h => by
    rw [alternatives]
    exact exists_isFound_alternativeOf cs (by simpa only [truth] using h.holds)
      (by simpa only [likes] using h.found)
  | .always, h | .compare .., h | .like .., h | .present _, h | .all _, h => by
    rw [alternatives]
    · exact ⟨_, List.mem_singleton_self _, h⟩
    all_goals simp

theorem exists_isFound_alternativeOf : (cs : List (Condition Value)) →
    truthOfAny today r cs = .holds → IsFoundByAll r (likesOf cs) →
      ∃ d ∈ alternativesOf cs, d.IsFound today r
  | [], h, _ => by simp [truthOfAny] at h
  | c :: cs, h, hfound => by
    rw [truthOfAny, Truth.or_eq_holds] at h
    rw [likesOf, isFoundByAll_append] at hfound
    rw [alternativesOf]
    rcases h with h | h
    · obtain ⟨d, hd, hfoundFor⟩ := exists_isFound_alternative c ⟨h, hfound.1⟩
      exact ⟨d, List.mem_append_left _ hd, hfoundFor⟩
    · obtain ⟨d, hd, hfoundFor⟩ := exists_isFound_alternativeOf cs h hfound.2
      exact ⟨d, List.mem_append_right _ hd, hfoundFor⟩

end

end Condition

/-! ## Paths that miss nothing -/

namespace Path

variable {r : Row}

theorem leadsTo_better {p q : Path} (hp : p.leadsTo r = true) (hq : q.leadsTo r = true) :
    (p.better q).leadsTo r = true := by
  unfold better
  split
  · exact hq
  · exact hp

theorem leadsTo_best {ps : List Path} (h : ∀ p ∈ ps, p.leadsTo r = true) :
    (best ps).leadsTo r = true := by
  unfold best
  have hall : ∀ p : Path, p.leadsTo r = true → (ps.foldl better p).leadsTo r = true := by
    induction ps with
    | nil => exact fun p hp => hp
    | cons q ps ih =>
      rw [List.forall_mem_cons] at h
      exact fun p hp => ih h.2 _ (leadsTo_better hp h.1)
  exact hall table rfl

theorem leadsTo_ofValue? {c : Column} {p : Path} (h : ofValue? c = some p) : p.leadsTo r = true := by
  unfold ofValue? at h
  split at h <;> cases h <;> rfl

theorem leadsTo_ofBounds? {c : Column} {hasLower hasUpper : Bool} {p : Path}
    (h : ofBounds? c hasLower hasUpper = some p) : p.leadsTo r = true := by
  unfold ofBounds? at h
  split at h
  · cases h
    rfl
  · split at h <;> cases h
    rfl

theorem leadsTo_ofPattern? {isEnough : Bool} {c : Column} {pattern : String} {p : Path}
    (hr : r.IsFoundBy c pattern) (hp : ofPattern? isEnough c (untilNull pattern.toList) = some p)
    (h : Condition.likeCells (r.cell c) (.text pattern) = .holds) : p.leadsTo r = true := by
  unfold ofPattern? at hp
  split at hp
  · next hc =>
    have key : ∀ s : String, r.cell c = .text s → BeginsAs pattern s → p.leadsTo r = true := by
      intro s hs hbegins
      have hfit : isLike s pattern = true := by
        rw [hs] at h
        simpa [Condition.likeCells, Cell.toText?] using h
      rw [← Option.some.inj hp]
      simp only [hs]
      exact hbegins hfit
    rcases hc.1 with rfl | rfl
    · exact key r.owner rfl hr
    · exact key r.title rfl hr
  · cases hp

end Path

namespace Condition

variable {today : Calendar.Date} {r : Row} {isEnough : Column → Bool}

theorem leadsTo_path? {c : Condition Value} (h : c.IsFound today r) {p : Path}
    (hp : c.path? isEnough = some p) : p.leadsTo r = true := by
  unfold path? at hp
  split at hp
  · exact Path.leadsTo_ofValue? hp
  · next column pattern =>
    have hlike : likeCells (r.cell column) (.text pattern) = .holds := by
      simpa [truth, Scalar.eval, Scalar.ofValue] using h.holds
    exact Path.leadsTo_ofPattern? (h.found (column, pattern) (List.mem_singleton_self _)) hp hlike
  · cases hp

theorem leadsTo_boundPaths {parts : List (Condition Value)} {p : Path} (hp : p ∈ boundPaths parts) :
    p.leadsTo r = true := by
  obtain ⟨_, -, h⟩ := List.mem_filterMap.1 hp
  exact Path.leadsTo_ofBounds? h

theorem leadsTo_conjunctionPath {parts : List (Condition Value)}
    (h : ∀ c ∈ parts, c.IsFound today r) : (conjunctionPath isEnough parts).leadsTo r = true := by
  refine Path.leadsTo_best fun p hp => ?_
  rcases List.mem_append.1 hp with hp | hp
  · obtain ⟨c, hc, hpath⟩ := List.mem_filterMap.1 hp
    exact leadsTo_path? (h c hc) hpath
  · exact leadsTo_boundPaths hp

theorem leadsTo_alternativesPath? {c : Condition Value} (h : c.IsFound today r) {p : Path}
    (hp : c.alternativesPath? today isEnough = some p) : p.leadsTo r = true := by
  unfold alternativesPath? at hp
  split at hp
  · next cs =>
    dsimp only at hp
    split at hp
    · obtain ⟨d, hd, hfound⟩ := exists_isFound_alternativeOf cs (by simpa only [truth] using h.holds)
        (by simpa only [likes] using h.found)
      rw [← Option.some.inj hp]
      simp only [List.any_map, List.any_eq_true]
      refine ⟨d, hd, ?_⟩
      simp [leadsTo_conjunctionPath (isFound_conjuncts d hfound), hfound.holds]
    · cases hp
  · cases hp

end Condition

/-- The path of a statement leads to every row that is found for its condition. -/
theorem Statement.leadsTo_path {q : Statement} {r : Row} (h : q.condition.IsFound q.today r) :
    q.path.leadsTo r = true := by
  have hparts := Condition.isFound_conjuncts _ h
  refine Path.leadsTo_best fun p hp => ?_
  rw [List.mem_append, List.mem_append, List.mem_filterMap, List.mem_filterMap] at hp
  rcases hp with (⟨c, hc, hpath⟩ | hbounds) | ⟨c, hc, hpath⟩
  · exact Condition.leadsTo_path? (hparts c hc) hpath
  · exact Condition.leadsTo_boundPaths hbounds
  · exact Condition.leadsTo_alternativesPath? (hparts c hc) hpath

theorem Engine.usual_isSound : Engine.usual.IsSound where
  answers _ _ h := decide_eq_true h
  leadsTo _ _ _ _ h := Statement.leadsTo_path h

end TagSearch
