import Mathlib.Data.List.Nodup
import Mathlib.Logic.Function.Basic
import Mathlib.Order.Basic

/-! A sort by selection that merges items on the way: a round goes over the items that are left and
keeps the best one so far, and an item that is as good as one it meets is merged with it.
-/

namespace Cx4Kernel.Foundation

/-- What becomes of an item that meets the champion of a round. -/
inductive Meeting where
  /-- The item waits for a later round. -/
  | waits
  /-- The item is the champion from now on, and the old one waits. -/
  | beats
  /-- The item is merged into the champion. -/
  | absorbed
  /-- The item is the champion from now on, and the old one is merged into it. -/
  | absorbs

structure Round (ι : Type) where
  merged : ι → Bool
  champion : Option ι

section Selection

variable {ι : Type} [DecidableEq ι] (meet : ι → ι → Meeting) (order : List ι)

/-- One item of a round. -/
def meetStep (s : Round ι) (item : ι) : Round ι :=
  if s.merged item then s
  else
    match s.champion with
    | none => { s with champion := some item }
    | some champion =>
      match meet item champion with
      | .waits => s
      | .beats => { s with champion := some item }
      | .absorbed => { s with merged := Function.update s.merged item true }
      | .absorbs => { merged := Function.update s.merged champion true, champion := some item }

def selectRound (merged : ι → Bool) : Round ι := order.foldl (meetStep meet) ⟨merged, none⟩

/-- The champions of at most so many rounds. -/
def champions : Nat → (ι → Bool) → List ι
  | 0, _ => []
  | rounds + 1, merged =>
    let s := selectRound meet order merged
    match s.champion with
    | none => []
    | some champion => champion :: champions rounds (Function.update s.merged champion true)

/-- How many items are left. -/
def itemsLeft (merged : ι → Bool) : Nat := order.countP (!merged ·)

end Selection

/-- Fewer items are left once one more is merged. -/
theorem itemsLeft_lt_of_kept {ι : Type} {order : List ι} {before after : ι → Bool} {item : ι}
    (inside : item ∈ order) (left : before item = false) (merged : after item = true)
    (kept : ∀ item, before item = true → after item = true)
    : itemsLeft order after < itemsLeft order before := by
  have fewer : ∀ items : List ι, items.countP (!after ·) ≤ items.countP (!before ·) := fun items =>
    List.countP_mono_left fun item _ left => by
      cases was : before item with
      | false => rfl
      | true =>
        rw [kept item was] at left
        cases left
  obtain ⟨front, back, rfl⟩ := List.append_of_mem inside
  have frontFewer := fewer front
  have backFewer := fewer back
  unfold itemsLeft
  rw [List.countP_append, List.countP_append, List.countP_cons_of_neg (by simp [merged]),
    List.countP_cons_of_pos (by simp [left])]
  omega

-----------------------------------------------------------------------------------------
-- One round
-----------------------------------------------------------------------------------------

section Ranked

variable {ι β : Type} [Preorder β]

/-- Who wins has the higher rank, and only like items are merged. -/
structure MeetsByRank (rank : ι → β) (same : ι → ι → Prop) (meet : ι → ι → Meeting) : Prop where
  refl : ∀ item, same item item
  trans : ∀ first second third, same first second → same second third → same first third
  waits : ∀ item champion, meet item champion = .waits → rank item < rank champion
  beats : ∀ item champion, meet item champion = .beats → rank champion < rank item
  absorbed : ∀ item champion, meet item champion = .absorbed
    → same item champion ∧ rank item ≤ rank champion
  absorbs : ∀ item champion, meet item champion = .absorbs
    → same champion item ∧ rank champion ≤ rank item

variable {rank : ι → β} {same : ι → ι → Prop} {meet : ι → ι → Meeting}

/-- Another item stands for an item. -/
structure StandsFor (rank : ι → β) (same : ι → ι → Prop) (item other : ι) : Prop where
  same : same item other
  rank : rank item ≤ rank other

theorem MeetsByRank.standsFor_refl (ranked : MeetsByRank rank same meet) (item : ι)
    : StandsFor rank same item item :=
  ⟨ranked.refl item, le_refl _⟩

theorem MeetsByRank.standsFor_trans (ranked : MeetsByRank rank same meet) {first second third : ι}
    (left : StandsFor rank same first second) (right : StandsFor rank same second third)
    : StandsFor rank same first third :=
  ⟨ranked.trans _ _ _ left.same right.same, left.rank.trans right.rank⟩

/-- An item that is left stands for every item that was merged since the start. -/
def Represented (rank : ι → β) (same : ι → ι → Prop) (start : ι → Bool) (seen : List ι)
    (merged : ι → Bool)
    : Prop :=
  ∀ item, start item = false → merged item = true
    → ∃ other ∈ seen, merged other = false ∧ StandsFor rank same item other

/-- What holds in a round that started with some merged items, once some items are seen. -/
structure RoundOk (rank : ι → β) (same : ι → ι → Prop) (start : ι → Bool) (seen : List ι)
    (s : Round ι)
    : Prop where
  kept : ∀ item, start item = true → s.merged item = true
  champion : ∀ item, s.champion = some item → item ∈ seen ∧ s.merged item = false
  left : ∀ item ∈ seen, s.merged item = false
    → ∃ champion, s.champion = some champion ∧ (item = champion ∨ rank item < rank champion)
  merged : Represented rank same start seen s.merged

theorem roundOk_start (start : ι → Bool) : RoundOk rank same start [] ⟨start, none⟩ where
  kept := fun _ merged => merged
  champion := fun _ none => by cases none
  left := fun _ member => absurd member List.not_mem_nil
  merged := fun _ before after => absurd after (Bool.eq_false_iff.mp before)

variable {start : ι → Bool} {seen : List ι}

theorem Represented.more {merged : ι → Bool} (represented : Represented rank same start seen merged)
    (item : ι)
    : Represented rank same start (seen ++ [item]) merged := by
  intro old before after
  obtain ⟨other, member, left, stands⟩ := represented old before after
  exact ⟨other, List.mem_append_left _ member, left, stands⟩

variable [DecidableEq ι]

/-- An item is merged with one that is left. Those that it stood for go over to the other one. -/
theorem Represented.merge (ranked : MeetsByRank rank same meet) {merged : ι → Bool}
    (represented : Represented rank same start seen merged) {loser winner : ι}
    (member : winner ∈ seen) (left : merged winner = false) (apart : winner ≠ loser)
    (stands : StandsFor rank same loser winner)
    : Represented rank same start seen (Function.update merged loser true) := by
  have winnerLeft : Function.update merged loser true winner = false := by
    rw [Function.update_of_ne apart]
    exact left
  intro item before after
  by_cases isLoser : item = loser
  · rw [isLoser]
    exact ⟨winner, member, winnerLeft, stands⟩
  · rw [Function.update_of_ne isLoser] at after
    obtain ⟨other, seenOther, otherLeft, otherStands⟩ := represented item before after
    by_cases isLost : other = loser
    · exact ⟨winner, member, winnerLeft, ranked.standsFor_trans (isLost ▸ otherStands) stands⟩
    · refine ⟨other, seenOther, ?_, otherStands⟩
      rw [Function.update_of_ne isLost]
      exact otherLeft

/-- Merging an item keeps what is merged. -/
theorem update_kept {merged : ι → Bool} (kept : ∀ item, start item = true → merged item = true)
    (loser item : ι) (before : start item = true)
    : Function.update merged loser true item = true := by
  by_cases isLoser : item = loser
  · rw [isLoser, Function.update_self]
  · rw [Function.update_of_ne isLoser]
    exact kept item before

/-- An item that is left once another one is merged. -/
theorem update_left {merged : ι → Bool} {loser item : ι}
    : Function.update merged loser true item = false ↔ item ≠ loser ∧ merged item = false := by
  by_cases isLoser : item = loser
  · simp [isLoser]
  · simp [isLoser]

/-- The step of a round, by who the champion is and what becomes of the item. -/
theorem RoundOk.step (ranked : MeetsByRank rank same meet) {s : Round ι}
    (ok : RoundOk rank same start seen s) {item : ι} (fresh : item ∉ seen)
    : RoundOk rank same start (seen ++ [item]) (meetStep meet s item) := by
  have last : item ∈ seen ++ [item] := List.mem_append_right _ (List.mem_singleton_self _)
  rcases s with ⟨merged, champion⟩
  cases itemLeft : merged item with
  | true =>
    rw [meetStep, if_pos itemLeft]
    refine ⟨ok.kept, fun old is => ?_, fun old member left => ?_, ok.merged.more item⟩
    · exact ⟨List.mem_append_left _ (ok.champion old is).1, (ok.champion old is).2⟩
    · rcases List.mem_append.mp member with before | new
      · exact ok.left old before left
      · rw [List.mem_singleton.mp new] at left
        exact absurd itemLeft (Bool.eq_false_iff.mp left)
  | false =>
    rw [meetStep, if_neg (Bool.eq_false_iff.mp itemLeft)]
    cases champion with
    | none =>
      refine ⟨ok.kept, ?_, fun old member left => ?_, ok.merged.more item⟩
      · rintro _ ⟨⟩
        exact ⟨last, itemLeft⟩
      · rcases List.mem_append.mp member with before | new
        · obtain ⟨_, was, _⟩ := ok.left old before left
          cases was
        · exact ⟨item, rfl, .inl (List.mem_singleton.mp new)⟩
    | some champion =>
      obtain ⟨championSeen, championLeft⟩ := ok.champion champion rfl
      have championLast := List.mem_append_left [item] championSeen
      have apart : champion ≠ item := fun same => fresh (same ▸ championSeen)
      have below : ∀ old ∈ seen, merged old = false → old = champion ∨ rank old < rank champion := by
        intro old before left
        obtain ⟨_, ⟨⟩, below⟩ := ok.left old before left
        exact below
      dsimp only
      cases outcome : meet item champion with
      | waits =>
        have lower := ranked.waits item champion outcome
        refine ⟨ok.kept, ?_, fun old member left => ⟨champion, rfl, ?_⟩, ok.merged.more item⟩
        · rintro _ ⟨⟩
          exact ⟨championLast, championLeft⟩
        · rcases List.mem_append.mp member with before | new
          · exact below old before left
          · rw [List.mem_singleton.mp new]
            exact .inr lower
      | beats =>
        have lower := ranked.beats item champion outcome
        refine ⟨ok.kept, ?_, fun old member left => ⟨item, rfl, ?_⟩, ok.merged.more item⟩
        · rintro _ ⟨⟩
          exact ⟨last, itemLeft⟩
        · rcases List.mem_append.mp member with before | new
          · rcases below old before left with rfl | under
            · exact .inr lower
            · exact .inr (under.trans lower)
          · exact .inl (List.mem_singleton.mp new)
      | absorbed =>
        obtain ⟨alike, upper⟩ := ranked.absorbed item champion outcome
        refine ⟨update_kept ok.kept item, ?_, fun old member left => ⟨champion, rfl, ?_⟩,
          (ok.merged.more item).merge ranked championLast championLeft apart ⟨alike, upper⟩⟩
        · rintro _ ⟨⟩
          exact ⟨championLast, update_left.mpr ⟨apart, championLeft⟩⟩
        · obtain ⟨isOther, oldLeft⟩ := update_left.mp left
          rcases List.mem_append.mp member with before | new
          · exact below old before oldLeft
          · exact absurd (List.mem_singleton.mp new) isOther
      | absorbs =>
        obtain ⟨alike, upper⟩ := ranked.absorbs item champion outcome
        refine ⟨update_kept ok.kept champion, ?_, fun old member left => ⟨item, rfl, ?_⟩,
          (ok.merged.more item).merge ranked last itemLeft apart.symm ⟨alike, upper⟩⟩
        · rintro _ ⟨⟩
          exact ⟨last, update_left.mpr ⟨apart.symm, itemLeft⟩⟩
        · obtain ⟨isOther, oldLeft⟩ := update_left.mp left
          rcases List.mem_append.mp member with before | new
          · exact .inr (((below old before oldLeft).resolve_left isOther).trans_le upper)
          · exact .inl (List.mem_singleton.mp new)

/-- A whole round, by induction on the items that are left to see. -/
theorem RoundOk.foldl (ranked : MeetsByRank rank same meet) {s : Round ι} {rest : List ι}
    (ok : RoundOk rank same start seen s) (distinct : (seen ++ rest).Nodup)
    : RoundOk rank same start (seen ++ rest) (rest.foldl (meetStep meet) s) := by
  induction rest generalizing seen s with
  | nil =>
    rw [List.append_nil]
    exact ok
  | cons item rest ih =>
    have fresh : item ∉ seen := fun member =>
      (List.nodup_append.mp distinct).2.2 item member item List.mem_cons_self rfl
    rw [List.append_cons] at distinct ⊢
    exact ih (ok.step ranked fresh) distinct

variable {order : List ι}

theorem roundOk_selectRound (ranked : MeetsByRank rank same meet) (distinct : order.Nodup)
    (start : ι → Bool)
    : RoundOk rank same start order (selectRound meet order start) :=
  (roundOk_start start).foldl ranked distinct

-----------------------------------------------------------------------------------------
-- All rounds
-----------------------------------------------------------------------------------------

/-- A champion is an item that is left. -/
theorem left_of_mem_champions (ranked : MeetsByRank rank same meet) (distinct : order.Nodup)
    {rounds : Nat} {merged : ι → Bool} {item : ι} (member : item ∈ champions meet order rounds merged)
    : item ∈ order ∧ merged item = false := by
  induction rounds generalizing merged with
  | zero => cases member
  | succ rounds ih =>
    have ok := roundOk_selectRound ranked distinct merged
    have before : ∀ item, (selectRound meet order merged).merged item = false → merged item = false :=
      fun item after => Bool.eq_false_iff.mpr fun start => by
        rw [ok.kept item start] at after
        cases after
    unfold champions at member
    dsimp only at member
    cases is : (selectRound meet order merged).champion with
    | none =>
      rw [is] at member
      cases member
    | some champion =>
      rw [is] at member
      rcases List.mem_cons.mp member with rfl | later
      · obtain ⟨inside, left⟩ := ok.champion item is
        exact ⟨inside, before item left⟩
      · obtain ⟨inside, left⟩ := ih later
        exact ⟨inside, before item (update_left.mp left).2⟩

/-- The champions go down, by induction on the rounds. -/
theorem champions_descend (ranked : MeetsByRank rank same meet) (distinct : order.Nodup)
    (rounds : Nat) (merged : ι → Bool)
    : (champions meet order rounds merged).Pairwise (rank · > rank ·) := by
  induction rounds generalizing merged with
  | zero => exact .nil
  | succ rounds ih =>
    have ok := roundOk_selectRound ranked distinct merged
    unfold champions
    dsimp only
    cases is : (selectRound meet order merged).champion with
    | none => exact .nil
    | some champion =>
      refine .cons (fun later member => ?_) (ih _)
      obtain ⟨inside, left⟩ := left_of_mem_champions ranked distinct member
      obtain ⟨apart, left⟩ := update_left.mp left
      obtain ⟨_, same, below⟩ := ok.left later inside left
      rw [is] at same
      cases same
      exact below.resolve_left apart

/-- A round with a champion leaves fewer items. -/
theorem RoundOk.itemsLeft_lt {s : Round ι} (ok : RoundOk rank same start order s) {champion : ι}
    (is : s.champion = some champion)
    : itemsLeft order (Function.update s.merged champion true) < itemsLeft order start := by
  obtain ⟨inside, left⟩ := ok.champion champion is
  have before : start champion = false := Bool.eq_false_iff.mpr fun merged => by
    rw [ok.kept champion merged] at left
    cases left
  exact itemsLeft_lt_of_kept inside before (by rw [Function.update_self])
    (fun item merged => update_kept ok.kept champion item merged)

/-- With a round for every item that is left, some champion stands for each of them, by induction on
the rounds.
-/
theorem champions_complete (ranked : MeetsByRank rank same meet) (distinct : order.Nodup)
    {rounds : Nat} {merged : ι → Bool} (enough : itemsLeft order merged ≤ rounds) {item : ι}
    (inside : item ∈ order) (left : merged item = false)
    : ∃ champion ∈ champions meet order rounds merged, StandsFor rank same item champion := by
  induction rounds generalizing merged item with
  | zero =>
    have none : order.countP (!merged ·) = 0 := Nat.le_zero.mp enough
    exact absurd (by rw [left]; rfl) (List.countP_eq_zero.mp none item inside)
  | succ rounds ih =>
    have ok := roundOk_selectRound ranked distinct merged
    -- Some item that is left after the round stands for the item.
    obtain ⟨other, otherInside, otherLeft, stands⟩ : ∃ other ∈ order,
        (selectRound meet order merged).merged other = false ∧ StandsFor rank same item other := by
      cases after : (selectRound meet order merged).merged item with
      | false => exact ⟨item, inside, after, ranked.standsFor_refl item⟩
      | true => exact ok.merged item left after
    obtain ⟨champion, is, _⟩ := ok.left other otherInside otherLeft
    have fewer := ok.itemsLeft_lt is
    unfold champions
    simp only [is]
    by_cases isChampion : other = champion
    · exact ⟨champion, List.mem_cons_self, isChampion ▸ stands⟩
    · obtain ⟨later, member, standsLater⟩ := ih (by omega) otherInside
        (update_left.mpr ⟨isChampion, otherLeft⟩)
      exact ⟨later, .tail _ member, ranked.standsFor_trans stands standsLater⟩

/-- More rounds than items add no champion, by induction on the rounds. -/
theorem champions_enough (ranked : MeetsByRank rank same meet) (distinct : order.Nodup)
    {rounds : Nat} {merged : ι → Bool} (enough : itemsLeft order merged ≤ rounds) (more : Nat)
    : champions meet order (rounds + more) merged = champions meet order rounds merged := by
  induction rounds generalizing merged with
  | zero =>
    cases all : champions meet order (0 + more) merged with
    | nil => rfl
    | cons champion rest =>
      obtain ⟨inside, left⟩ := left_of_mem_champions ranked distinct
        (all ▸ List.mem_cons_self : champion ∈ champions meet order (0 + more) merged)
      have none : order.countP (!merged ·) = 0 := Nat.le_zero.mp enough
      exact absurd (by rw [left]; rfl) (List.countP_eq_zero.mp none champion inside)
  | succ rounds ih =>
    have ok := roundOk_selectRound ranked distinct merged
    rw [Nat.succ_add]
    unfold champions
    dsimp only
    cases is : (selectRound meet order merged).champion with
    | none => rfl
    | some champion =>
      have fewer := ok.itemsLeft_lt is
      exact congrArg (champion :: ·) (ih (by omega))

end Ranked

end Cx4Kernel.Foundation
