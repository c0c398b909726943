import Cx4Kernel.Vidmm.PageDirectory

/-! What a call of `vidmm_vm_alloc_pd` leaves behind when a call inside fails. -/

namespace Cx4Kernel.Vidmm

-----------------------------------------------------------------------------------------
-- Paths
-----------------------------------------------------------------------------------------

variable {parent path : List Nat} {idx later : Nat}

/-- What is below an entry is below its directory. -/
theorem prefix_of_child (under : parent ++ [idx] <+: path) : parent <+: path :=
  (List.prefix_append parent [idx]).trans under

/-- Nothing is below two entries. -/
theorem child_prefix_injective (under : parent ++ [idx] <+: path)
    (other : parent ++ [later] <+: path)
    : idx = later := by
  obtain ⟨rest, rfl⟩ := under
  obtain ⟨tail, same⟩ := other
  simp only [List.append_assoc, List.singleton_append] at same
  exact (List.cons.inj (List.append_cancel_left same)).1.symm

/-- A directory is not below its entries. -/
theorem child_not_before (parent : List Nat) (idx : Nat) : ¬ parent ++ [idx] <+: parent := by
  intro under
  have longer := under.length_le
  simp at longer

/-- A call that is made under a condition, and does not fail when it is made. -/
theorem find?_guarded {Call : Type} {fails : Call → Bool} {call : Call} {used : Prop}
    [Decidable used] (works : used → ¬ fails call)
    : (if used then [call] else []).find? fails = none := by
  split
  next made => rw [List.find?_cons_of_neg (works made), List.find?_nil]
  next => rfl

-----------------------------------------------------------------------------------------
-- What a part of the call may change
-----------------------------------------------------------------------------------------

namespace PdTables

/-- Only tables of a region change, and usable ones stay usable. -/
structure Grown (region : List Nat) (before after : PdTables) : Prop where
  outside : ∀ path, ¬ region <+: path → after path = before path
  kept : before.Kept after

/-- The tables are sound, but for entries that are yet to be allocated. -/
structure SoundBut (tables : PdTables) (pending : List Nat → Prop) : Prop where
  undestroyed : ∀ path, (tables path).buffer → (tables path).destroyed = false
  backed : ∀ directory idx, directory.length < 2 → (tables directory).bit idx
    → ¬ pending (directory ++ [idx]) → (tables (directory ++ [idx])).Live
  bitmaps : ∀ path, (tables path).buffer → (tables path).updateBitmap.isSome

/-- A bit in the region belongs to an entry without a live buffer. -/
def Harmed (region : List Nat) (tables : PdTables) : Prop :=
  ∃ directory idx, region <+: directory ++ [idx] ∧ directory.length < 2
    ∧ (tables directory).bit idx ∧ ¬ (tables (directory ++ [idx])).Live

variable {before between after tables : PdTables} {region outer : List Nat}
  {pending fewer : List Nat → Prop}

theorem Grown.trans (first : Grown region before between) (second : Grown region between after)
    : Grown region before after where
  outside path off := (second.outside path off).trans (first.outside path off)
  kept path usable := second.kept path (first.kept path usable)

theorem Grown.widen (grown : Grown region before after) (inside : outer <+: region)
    : Grown outer before after where
  outside path off := grown.outside path fun on => off (inside.trans on)
  kept := grown.kept

/-- One table changes, and stays usable if it was. -/
theorem Grown.update {entry : PdEntry} (usable : (tables region).Usable → entry.Usable)
    : Grown region tables (Function.update tables region entry) where
  outside path off := by
    apply Function.update_of_ne
    rintro rfl
    exact off List.prefix_rfl
  kept path was := by
    by_cases here : path = region
    · subst here
      rw [Function.update_self]
      exact usable was
    · rw [Function.update_of_ne here]
      exact was

theorem Harmed.widen (harmed : Harmed region tables) (inside : outer <+: region)
    : Harmed outer tables := by
  obtain ⟨directory, idx, under, level, bit, dead⟩ := harmed
  exact ⟨directory, idx, inside.trans under, level, bit, dead⟩

/-- Entries that have a buffer already need not be pending. -/
theorem SoundBut.drop (sound : tables.SoundBut pending)
    (buffered : ∀ path, pending path → fewer path ∨ (tables path).buffer)
    : tables.SoundBut fewer where
  undestroyed := sound.undestroyed
  backed directory idx level bit off := by
    by_cases held : pending (directory ++ [idx])
    · rcases buffered _ held with still | buffer
      · exact absurd still off
      · exact ⟨buffer, sound.undestroyed _ buffer⟩
    · exact sound.backed directory idx level bit held
  bitmaps := sound.bitmaps

/-- An entry with a buffer is usable. -/
theorem SoundBut.usable (sound : tables.SoundBut pending) (buffer : (tables path).buffer)
    : (tables path).Usable :=
  ⟨⟨buffer, sound.undestroyed path buffer⟩, sound.bitmaps path buffer⟩

/-- A table is changed to a usable one, whose new bits are for pending entries. -/
theorem SoundBut.update {entry : PdEntry} (sound : tables.SoundBut pending)
    (usable : entry.Usable)
    (bits : ∀ idx, entry.bit idx → (tables region).bit idx ∨ fewer (region ++ [idx]))
    (others : ∀ path, pending path → path = region ∨ fewer path)
    : SoundBut (Function.update tables region entry) fewer := by
  refine ⟨fun path buffer => ?_, fun directory idx level bit off => ?_, fun path buffer => ?_⟩
  · by_cases here : path = region
    · subst here
      rw [Function.update_self]
      exact usable.1.2
    · rw [Function.update_of_ne here] at buffer ⊢
      exact sound.undestroyed path buffer
  · have was : (tables directory).bit idx := by
      by_cases here : directory = region
      · subst here
        rw [Function.update_self] at bit
        exact (bits idx bit).resolve_right off
      · rw [Function.update_of_ne here] at bit
        exact bit
    by_cases here : directory ++ [idx] = region
    · rw [here, Function.update_self]
      exact usable.1
    · rw [Function.update_of_ne here]
      apply sound.backed directory idx level was
      intro held
      exact (others _ held).elim here off
  · by_cases here : path = region
    · subst here
      rw [Function.update_self]
      exact usable.2
    · rw [Function.update_of_ne here] at buffer ⊢
      exact sound.bitmaps path buffer

end PdTables

-----------------------------------------------------------------------------------------
-- One entry
-----------------------------------------------------------------------------------------

namespace PdEnvironment

variable {env : PdEnvironment}

/-- The calls for an entry are about it. -/
theorem mem_entryCalls {entry : PdEntry} {call : PdCall} {other : List Nat}
    (member : (call, other) ∈ env.entryCalls path entry)
    : other = path := by
  unfold entryCalls at member
  split at member
  · cases member
  · split at member <;> split at member <;> simp at member <;> grind

/-- How the work on one entry ends, by the call that fails first. -/
inductive EntryEnds (path : List Nat) (entry : PdEntry)
    : Option (PdCall × List Nat) → PdEntry × PdStatus → Prop
  | allocated {after : PdEntry} (usable : after.Usable) (bits : after.bit = entry.bit)
    (entries : after.entries = entry.entries)
    : EntryEnds path entry none (after, .ok)
  | failed {call : PdCall} {after : PdEntry} {status : PdStatus}
    (own : call ≠ .lockParent ∧ call ≠ .entries) (error : status ≠ .ok)
    (unusable : ¬ entry.Usable) (bits : after.bit = entry.bit) (dead : ¬ after.Live)
    : EntryEnds path entry (some (call, path)) (after, status)

/-- An entry gets what it needs, or the call that failed leaves it without a live buffer. -/
theorem allocPdBuffer_ends (entry : PdEntry)
    (undestroyed : entry.buffer → entry.destroyed = false)
    (bitmaps : entry.buffer → entry.updateBitmap.isSome)
    : EntryEnds path entry ((env.entryCalls path entry).find? env.fails)
        (env.allocPdBuffer path entry) := by
  unfold entryCalls allocPdBuffer
  by_cases buffer : entry.buffer
  · rw [if_pos buffer, if_pos buffer]
    exact .allocated ⟨⟨buffer, undestroyed buffer⟩, bitmaps buffer⟩ rfl rfl
  have unusable : ¬ entry.Usable := fun usable => buffer usable.1.1
  rw [if_neg buffer, if_neg buffer]
  by_cases creates : env.createsBuffer path
  case neg =>
    have refused : env.fails (.create, path) := by simp [fails, creates]
    change EntryEnds _ _ _ (if env.fails (.create, path) then _ else _)
    rw [if_pos refused, List.append_assoc, List.cons_append, List.find?_cons_of_pos refused]
    exact .failed ⟨nofun, nofun⟩ nofun unusable rfl fun live => buffer live.1
  have created : ¬ env.fails (.create, path) := by simp [fails, creates]
  change EntryEnds _ _ _ (if env.fails (.create, path) then _ else _)
  rw [if_neg created, List.append_assoc, List.cons_append, List.find?_cons_of_neg created]
  dsimp only
  by_cases maps : env.mapSegmentMemory path = .ok
  case neg =>
    rw [if_pos maps, List.cons_append, List.find?_cons_of_pos (by simp [fails, maps])]
    exact .failed ⟨nofun, nofun⟩ maps unusable rfl fun live => by cases live.2
  have mapped : ¬ env.fails (.map, path) := by simp [fails, maps]
  rw [if_neg (not_not.mpr maps), List.cons_append, List.find?_cons_of_neg mapped,
    List.nil_append]
  by_cases locks : env.cpuUpdatePte && !env.lockSegmentMemory path
  case pos =>
    obtain ⟨used, refused⟩ := Bool.and_eq_true_iff.mp locks
    have failed : env.fails (.lock, path) := refused
    rw [if_pos locks, if_pos used, List.cons_append, List.find?_cons_of_pos failed]
    exact .failed ⟨nofun, nofun⟩ nofun unusable rfl fun live => by cases live.2
  have locked : (if env.cpuUpdatePte then [(PdCall.lock, path)] else []).find? env.fails
      = none :=
    find?_guarded fun used failed => locks (Bool.and_eq_true_iff.mpr ⟨used, failed⟩)
  rw [if_neg locks, List.find?_append, locked, Option.none_or]
  cases bitmap : entry.updateBitmap with
  | some bits =>
      have same : entry.bit = bits := by
        unfold VmPt.bit
        rw [bitmap]
        rfl
      exact .allocated ⟨⟨rfl, rfl⟩, rfl⟩ same.symm rfl
  | none =>
      dsimp only
      rw [if_pos Option.isNone_none]
      have clear : entry.bit = fun _ => false := by
        unfold VmPt.bit
        rw [bitmap]
        rfl
      by_cases given : env.callocBitmap path
      · rw [List.find?_cons_of_neg (by simp [fails, given]), if_pos given]
        exact .allocated ⟨⟨rfl, rfl⟩, rfl⟩ clear.symm rfl
      · rw [List.find?_cons_of_pos (by simp [fails, given]), if_neg given]
        exact .failed ⟨nofun, nofun⟩ nofun unusable clear.symm fun live => by cases live.2

-----------------------------------------------------------------------------------------
-- The calls of a directory
-----------------------------------------------------------------------------------------

/-- All calls of a directory are about tables below it, by induction on the levels. -/
theorem prefix_of_mem_calls {remaining : Nat} {tables : PdTables} {saddr eaddr : Nat}
    {call : PdCall} (member : (call, path) ∈ env.calls remaining tables parent saddr eaddr)
    : parent <+: path := by
  induction remaining generalizing parent saddr eaddr with
  | zero => cases member
  | succ remaining ih =>
      unfold calls at member
      rcases List.mem_append.mp member with here | below
      · have same : path = parent := by
          rcases List.mem_append.mp here with locked | opened
          · split at locked <;> simp at locked
            exact locked.2
          · split at opened <;> simp at opened
            exact opened.2
        exact same ▸ List.prefix_rfl
      · obtain ⟨idx, _, found⟩ := List.mem_flatMap.mp below
        rcases List.mem_append.mp found with own | deeper
        · rw [mem_entryCalls own]
          exact List.prefix_append parent [idx]
        · exact prefix_of_child (ih deeper)

/-- The calls of a directory depend on whether it has `entries` and on the tables below, by
induction on the levels.
-/
theorem calls_congr {remaining : Nat} {tables other : PdTables} {saddr eaddr : Nat}
    (entries : (tables parent).entries = (other parent).entries)
    (below : ∀ idx path, parent ++ [idx] <+: path → tables path = other path)
    : env.calls remaining tables parent saddr eaddr
      = env.calls remaining other parent saddr eaddr := by
  induction remaining generalizing parent saddr eaddr with
  | zero => rfl
  | succ remaining ih =>
      unfold calls
      rw [entries]
      congr 1
      apply List.flatMap_congr
      intro idx _
      have child := below idx _ List.prefix_rfl
      dsimp only
      rw [child, ih (congrArg (PdEntry.toVmPt · |>.entries) child) fun next path under =>
        below idx path (prefix_of_child under)]

/-- So do the buffers that `Covered` asks for. -/
theorem covered_congr {remaining : Nat} {tables other : PdTables} {saddr eaddr : Nat}
    (below : ∀ idx path, parent ++ [idx] <+: path → tables path = other path)
    : tables.Covered remaining parent saddr eaddr path
      ↔ other.Covered remaining parent saddr eaddr path := by
  induction remaining generalizing parent saddr eaddr with
  | zero => exact Iff.rfl
  | succ remaining ih =>
      unfold PdTables.Covered
      refine forall_congr' fun idx => imp_congr Iff.rfl (imp_congr Iff.rfl (and_congr ?_ ?_))
      · refine forall_congr' fun later => imp_congr Iff.rfl (imp_congr Iff.rfl ?_)
        rw [below later _ List.prefix_rfl]
      · exact ih fun next path under => below idx path (prefix_of_child under)

/-- The calls for one entry and below. -/
def childCalls (env : PdEnvironment) (remaining : Nat) (parent : List Nat) (saddr eaddr : Nat)
    (tables : PdTables) (idx : Nat)
    : List (PdCall × List Nat) :=
  env.entryCalls (parent ++ [idx]) (tables (parent ++ [idx]))
    ++ env.calls remaining tables (parent ++ [idx])
        (subAddrs parent.length saddr eaddr idx).1 (subAddrs parent.length saddr eaddr idx).2

theorem prefix_of_mem_childCalls {remaining saddr eaddr : Nat} {tables : PdTables}
    {call : PdCall}
    (member : (call, path) ∈ env.childCalls remaining parent saddr eaddr tables idx)
    : parent ++ [idx] <+: path := by
  rcases List.mem_append.mp member with own | deeper
  · exact mem_entryCalls own ▸ List.prefix_rfl
  · exact prefix_of_mem_calls deeper

theorem childCalls_congr {remaining saddr eaddr : Nat} {tables other : PdTables}
    (below : ∀ path, parent ++ [idx] <+: path → tables path = other path)
    : env.childCalls remaining parent saddr eaddr tables idx
      = env.childCalls remaining parent saddr eaddr other idx := by
  have child := below _ List.prefix_rfl
  unfold childCalls
  rw [child, calls_congr (congrArg (PdEntry.toVmPt · |>.entries) child) fun next path under =>
    below path (prefix_of_child under)]

/-- How a call ends, by the call inside that fails first. -/
inductive Ends (before : PdTables) (region : List Nat) (pending covered : List Nat → Prop)
    : Option (PdCall × List Nat) → Option (PdTables × PdStatus) → Prop
  | succeeds {after : PdTables} (grown : before.Grown region after)
    (sound : after.SoundBut pending)
    : Ends before region pending covered none (some (after, .ok))
  | faults {path : List Nat} : Ends before region pending covered (some (.lockParent, path)) none
  | harmless {after : PdTables} {status : PdStatus} {path : List Nat} (error : status ≠ .ok)
    (grown : before.Grown region after) (sound : after.SoundBut pending) (all : covered path)
    : Ends before region pending covered (some (.entries, path)) (some (after, status))
  | harmful {after : PdTables} {status : PdStatus} {call : PdCall} {path : List Nat}
    (error : status ≠ .ok) (grown : before.Grown region after) (harmed : after.Harmed region)
    (returns : call ≠ .lockParent) (uncovered : call = .entries → ¬ covered path)
    : Ends before region pending covered (some (call, path)) (some (after, status))

/-- The call is a part of a larger one that changes some tables before. -/
theorem Ends.within {before between : PdTables} {region outer : List Nat}
    {pending covered wider : List Nat → Prop} {first : Option (PdCall × List Nat)}
    {result : Option (PdTables × PdStatus)}
    (ends : Ends between region pending covered first result)
    (grown : before.Grown outer between) (inside : outer <+: region)
    (same : ∀ call path, first = some (call, path) → (covered path ↔ wider path))
    : Ends before outer pending wider first result := by
  cases ends with
  | succeeds later sound => exact .succeeds (grown.trans (later.widen inside)) sound
  | faults => exact .faults
  | harmless error later sound all =>
      exact .harmless error (grown.trans (later.widen inside)) sound ((same _ _ rfl).mp all)
  | harmful error later harmed returns uncovered =>
      refine .harmful error (grown.trans (later.widen inside)) (harmed.widen inside) returns ?_
      intro entries all
      exact uncovered entries ((same _ _ rfl).mpr all)

-----------------------------------------------------------------------------------------
-- The loop over the entries
-----------------------------------------------------------------------------------------

/-- Both ends of a range have an entry. -/
def Fits (level saddr eaddr : Nat) : Prop :=
  pdIndex level saddr < vmPtNumEntries level ∧ pdIndex level eaddr < vmPtNumEntries level

/-- The parts of a range fit the directories of the next level. -/
theorem subAddrs_fits {level : Nat} (upper : level < 2) (saddr eaddr idx : Nat)
    : Fits (level + 1) (subAddrs level saddr eaddr idx).1 (subAddrs level saddr eaddr idx).2 := by
  have bound : (subAddrs level saddr eaddr idx).1 < 2 ^ vmAccumPdBitsCount level
      ∧ (subAddrs level saddr eaddr idx).2 < 2 ^ vmAccumPdBitsCount level := by
    have positive : 0 < 2 ^ vmAccumPdBitsCount level := Nat.two_pow_pos _
    simp only [subAddrs, Nat.one_shiftLeft, Nat.and_two_pow_sub_one_eq_mod]
    constructor
    · split
      · exact Nat.mod_lt _ positive
      · exact positive
    · split
      · exact Nat.mod_lt _ positive
      · exact Nat.sub_one_lt_of_lt positive
  have small : ∀ addr, addr < 2 ^ vmAccumPdBitsCount level
      → pdIndex (level + 1) addr < vmPtNumEntries (level + 1) := by
    intro addr below
    refine Nat.lt_of_le_of_lt (Nat.mod_le _ _) ?_
    rw [Nat.shiftRight_eq_div_pow]
    match level, upper with
    | 0, _ => exact Nat.div_lt_of_lt_mul below
    | 1, _ => exact Nat.div_lt_of_lt_mul below
  exact ⟨small _ bound.1, small _ bound.2⟩

/-- What a call for `remaining` levels of directories does. -/
def Allocates (env : PdEnvironment) (remaining : Nat) : Prop :=
  ∀ (parent : List Nat) (tables : PdTables) (pending : List Nat → Prop) (saddr eaddr : Nat),
    parent.length + remaining = 2 → (tables parent).Usable → tables.SoundBut pending
    → Fits parent.length saddr eaddr
    → Ends tables parent pending (tables.Covered remaining parent saddr eaddr)
        ((env.calls remaining tables parent saddr eaddr).find? env.fails)
        (env.vidmmVmAllocPd remaining tables parent saddr eaddr)

variable {remaining saddr eaddr : Nat} {tables : PdTables} {pending fewer : List Nat → Prop}
  {rest idxs : List Nat}

/-- One entry, and what is below. It need not be pending any more. -/
theorem allocPdEntry_ends (saddr eaddr : Nat) (below : env.Allocates remaining)
    (level : parent.length + (remaining + 1) = 2) (sound : tables.SoundBut pending)
    (marked : (tables parent).bit idx)
    (others : ∀ path, pending path → path = parent ++ [idx] ∨ fewer path)
    : Ends tables (parent ++ [idx]) fewer
        (tables.Covered remaining (parent ++ [idx]) (subAddrs parent.length saddr eaddr idx).1
          (subAddrs parent.length saddr eaddr idx).2)
        ((env.childCalls remaining parent saddr eaddr tables idx).find? env.fails)
        (env.allocPdEntry (env.vidmmVmAllocPd remaining) parent saddr eaddr tables idx) := by
  have upper : parent.length < 2 := by omega
  have own := @PdEnvironment.allocPdBuffer_ends (parent ++ [idx]) env (tables (parent ++ [idx]))
    (sound.undestroyed _) (sound.bitmaps _)
  unfold childCalls allocPdEntry
  dsimp only
  rw [List.find?_append]
  generalize (env.entryCalls (parent ++ [idx]) (tables (parent ++ [idx]))).find? env.fails
    = first at own
  generalize env.allocPdBuffer (parent ++ [idx]) (tables (parent ++ [idx])) = result at own
  cases own with
  | @allocated after usable bits entries =>
      dsimp only
      rw [Option.none_or, if_pos rfl]
      have here : Function.update tables (parent ++ [idx]) after (parent ++ [idx]) = after :=
        Function.update_self ..
      have same : ∀ next path, parent ++ [idx] ++ [next] <+: path
          → Function.update tables (parent ++ [idx]) after path = tables path := by
        intro next path under
        apply Function.update_of_ne
        rintro rfl
        exact child_not_before _ next under
      have rest := below (parent ++ [idx]) (Function.update tables (parent ++ [idx]) after)
        fewer (subAddrs parent.length saddr eaddr idx).1
        (subAddrs parent.length saddr eaddr idx).2
        (by rw [List.length_append, List.length_singleton]; omega) (here.symm ▸ usable)
        (sound.update usable (fun i set => .inl (bits ▸ set)) others)
        (by
          rw [List.length_append]
          exact subAddrs_fits upper saddr eaddr idx)
      rw [calls_congr (by rw [here, entries]) same] at rest
      apply rest.within (.update fun _ => usable) List.prefix_rfl
      exact fun _ _ _ => covered_congr same
  | @failed call after status own error unusable bits dead =>
      dsimp only
      rw [Option.some_or, if_neg error]
      refine .harmful error (.update fun usable => absurd usable unusable) ?_ own.1
        fun entries => absurd entries own.2
      refine ⟨parent, idx, List.prefix_rfl, upper, ?_, ?_⟩
      · rw [Function.update_of_ne (by simp)]
        exact marked
      · rw [Function.update_self]
        exact dead

/-- `Covered` for some of the entries of a directory. -/
def CoveredIn (remaining : Nat) (parent : List Nat) (saddr eaddr : Nat) (idxs : List Nat)
    (tables : PdTables) (path : List Nat)
    : Prop :=
  ∀ idx ∈ idxs, parent ++ [idx] <+: path
    → (∀ later ∈ idxs, idx < later → (tables (parent ++ [later])).buffer)
      ∧ tables.Covered remaining (parent ++ [idx]) (subAddrs parent.length saddr eaddr idx).1
          (subAddrs parent.length saddr eaddr idx).2 path

/-- An entry of a larger list of entries in order is covered the same way there, where the
first entry has been visited and only its tables have changed.
-/
theorem coveredIn_cons {after : PdTables} (before : ∀ later ∈ rest, idx < later)
    (grown : tables.Grown (parent ++ [idx]) after) (member : later ∈ rest)
    (under : parent ++ [later] <+: path)
    : CoveredIn remaining parent saddr eaddr rest after path
      ↔ CoveredIn remaining parent saddr eaddr (idx :: rest) tables path := by
  have same : ∀ other ∈ rest, ∀ path, parent ++ [other] <+: path → after path = tables path := by
    intro other found path below
    apply grown.outside
    intro here
    have equal := child_prefix_injective here below
    have less := before other found
    omega
  constructor
  · intro covered other found below
    rcases List.mem_cons.mp found with rfl | inside
    · have equal := child_prefix_injective below under
      have less := before later member
      omega
    · obtain ⟨buffers, deeper⟩ := covered other inside below
      refine ⟨fun next among less => ?_, ?_⟩
      · rcases List.mem_cons.mp among with rfl | behind
        · have more := before other inside
          omega
        · exact same next behind _ List.prefix_rfl ▸ buffers next behind less
      · exact (covered_congr fun _ path below => same other inside path (prefix_of_child below)).mp
          deeper
  · intro covered other found below
    obtain ⟨buffers, deeper⟩ := covered other (List.mem_cons_of_mem _ found) below
    refine ⟨fun next among less => ?_, ?_⟩
    · rw [same next among _ List.prefix_rfl]
      exact buffers next (List.mem_cons_of_mem _ among) less
    · exact (covered_congr fun _ path below => same other found path (prefix_of_child below)).mpr
        deeper

/-- A visit that does not end with `S_OK` ends the loop. -/
theorem visitEntries_stop {body : PdTables → Nat → Option (PdTables × PdStatus)}
    {result : Option (PdTables × PdStatus)} (taken : body tables idx = result)
    (stops : ∀ after, result ≠ some (after, .ok))
    : visitEntries body tables (idx :: rest) = result := by
  rw [visitEntries, taken]
  split
  · rename_i after
    exact absurd rfl (stops after)
  · rfl

/-- The loop, by induction on the entries that are left. They are pending until their turn. -/
theorem visitEntries_ends (saddr eaddr : Nat) (below : env.Allocates remaining)
    (level : parent.length + (remaining + 1) = 2)
    (ordered : idxs.Pairwise (· < ·)) (marked : ∀ idx ∈ idxs, (tables parent).bit idx)
    (sound : tables.SoundBut fun path => fewer path ∨ ∃ idx ∈ idxs, path = parent ++ [idx])
    : Ends tables parent fewer (CoveredIn remaining parent saddr eaddr idxs tables)
        ((idxs.flatMap (env.childCalls remaining parent saddr eaddr tables)).find? env.fails)
        (visitEntries (env.allocPdEntry (env.vidmmVmAllocPd remaining) parent saddr eaddr)
          tables idxs) := by
  induction idxs generalizing tables with
  | nil =>
      refine .succeeds ⟨fun _ _ => rfl, fun _ usable => usable⟩ (sound.drop fun path held => ?_)
      rcases held with still | ⟨_, member, _⟩
      · exact .inl still
      · cases member
  | cons idx rest ih =>
      obtain ⟨before, ordered⟩ := List.pairwise_cons.mp ordered
      have others : ∀ path, (fewer path ∨ ∃ other ∈ idx :: rest, path = parent ++ [other])
          → path = parent ++ [idx] ∨ fewer path ∨ ∃ later ∈ rest, path = parent ++ [later] := by
        rintro path (still | ⟨other, member, rfl⟩)
        · exact .inr (.inl still)
        · rcases List.mem_cons.mp member with rfl | later
          · exact .inl rfl
          · exact .inr (.inr ⟨other, later, rfl⟩)
      have entry := allocPdEntry_ends saddr eaddr below level sound
        (marked idx List.mem_cons_self) others
      rw [List.flatMap_cons, List.find?_append]
      generalize first : (env.childCalls remaining parent saddr eaddr tables idx).find? env.fails
        = call at entry
      generalize taken : env.allocPdEntry (env.vidmmVmAllocPd remaining) parent saddr eaddr
        tables idx = result at entry
      have onward : parent <+: parent ++ [idx] := List.prefix_append ..
      cases entry with
      | @succeeds after grown sound =>
          have same : ∀ later ∈ rest, env.childCalls remaining parent saddr eaddr after later
              = env.childCalls remaining parent saddr eaddr tables later := by
            intro later member
            refine childCalls_congr fun path under => grown.outside path fun here => ?_
            have equal := child_prefix_injective here under
            have less := before later member
            omega
          have unchanged : after parent = tables parent :=
            grown.outside parent (child_not_before parent idx)
          have left := ih ordered (fun later member => unchanged ▸ marked later
            (List.mem_cons_of_mem _ member)) sound
          rw [List.flatMap_congr same] at left
          rw [Option.none_or, visitEntries, taken]
          apply left.within (grown.widen onward) List.prefix_rfl
          intro call path found
          obtain ⟨later, member, within⟩ := List.mem_flatMap.mp (List.mem_of_find?_eq_some found)
          exact coveredIn_cons before grown member (prefix_of_mem_childCalls within)
      | faults =>
          rw [Option.some_or, visitEntries_stop taken nofun]
          exact .faults
      | @harmless after status path error grown sound all =>
          rw [Option.some_or, visitEntries_stop taken fun _ same => error (by cases same; rfl)]
          have under := prefix_of_mem_childCalls (List.mem_of_find?_eq_some first)
          have untouched : ∀ later ∈ rest,
              after (parent ++ [later]) = tables (parent ++ [later]) := by
            intro later member
            apply grown.outside
            intro here
            have equal := child_prefix_injective here List.prefix_rfl
            have less := before later member
            omega
          by_cases buffers : ∀ later ∈ rest, (tables (parent ++ [later])).buffer
          · refine .harmless error (grown.widen onward) (sound.drop ?_) ?_
            · rintro _ (still | ⟨later, member, rfl⟩)
              · exact .inl still
              · exact .inr (untouched later member ▸ buffers later member)
            · intro other _ below
              obtain rfl := child_prefix_injective under below
              refine ⟨fun later among less => ?_, all⟩
              rcases List.mem_cons.mp among with rfl | behind
              · omega
              · exact buffers later behind
          · obtain ⟨later, missing⟩ := not_forall.mp buffers
            obtain ⟨member, absent⟩ := Classical.not_imp.mp missing
            refine .harmful error (grown.widen onward) ?_ nofun fun _ covered => ?_
            · refine ⟨parent, later, List.prefix_append .., by omega, ?_, fun live => ?_⟩
              · rw [grown.outside parent (child_not_before parent idx)]
                exact marked later (List.mem_cons_of_mem _ member)
              · exact absent (untouched later member ▸ live.1)
            · exact absent ((covered idx List.mem_cons_self under).1 later
                (List.mem_cons_of_mem _ member) (before later member))
      | @harmful after status call path error grown harmed returns uncovered =>
          rw [Option.some_or, visitEntries_stop taken fun _ same => error (by cases same; rfl)]
          have under := prefix_of_mem_childCalls (List.mem_of_find?_eq_some first)
          refine .harmful error (grown.widen onward) (harmed.widen onward) returns ?_
          intro entries covered
          exact uncovered entries (covered idx List.mem_cons_self under).2

-----------------------------------------------------------------------------------------
-- The directory itself
-----------------------------------------------------------------------------------------

/-- A directory that gets its array of entries and the bits of a range has these bits, and
keeps the others.
-/
theorem bit_markEntries (first last : Nat) {entry : PdEntry}
    (bitmap : entry.updateBitmap.isSome) (i : Nat)
    : (markEntries first last { entry with entries := true }).bit i
      = (decide (first ≤ i ∧ i ≤ last) || entry.bit i) := by
  have set : (markEntries first last { entry with entries := true }).toVmPt
      = vmPtUpdateBitmap first last true { entry.toVmPt with entries := true } := by
    unfold markEntries
    split
    · rename_i all
      exact (VmPtInfo.updateBitmap_of_check all).symm
    · rfl
  have opened : VmPt.updateBitmap { entry.toVmPt with entries := true } |>.isSome := bitmap
  rw [set, bit_updateBitmap i opened]
  by_cases inside : first ≤ i ∧ i ≤ last
  · rw [if_pos inside, decide_eq_true inside]
    rfl
  · rw [if_neg inside, decide_eq_false inside]
    rfl

theorem usable_markEntries (first last : Nat) {entry : PdEntry} (usable : entry.Usable)
    : (markEntries first last { entry with entries := true }).Usable := by
  unfold markEntries
  split
  · exact usable
  · refine ⟨usable.1, ?_⟩
    exact Option.isSome_map.trans usable.2

/-- Each call for a number of levels does what `Ends` says, by induction on the levels. -/
theorem allocates (env : PdEnvironment) (remaining : Nat) : env.Allocates remaining := by
  induction remaining with
  | zero =>
      intro parent tables pending saddr eaddr _ _ sound _
      exact .succeeds ⟨fun _ _ => rfl, fun _ usable => usable⟩ sound
  | succ remaining ih =>
      intro parent tables pending saddr eaddr level usable sound fits
      have upper : parent.length < 2 := by omega
      have start : tables.Grown parent tables := ⟨fun _ _ => rfl, fun _ usable => usable⟩
      unfold calls vidmmVmAllocPd
      dsimp only
      rw [List.append_assoc, List.find?_append]
      by_cases locks : env.updatePrivateVma && !env.lockParent parent
      case pos =>
        obtain ⟨used, refused⟩ := Bool.and_eq_true_iff.mp locks
        have failed : env.fails (.lockParent, parent) := refused
        rw [if_pos locks, if_pos used, List.find?_cons_of_pos failed]
        exact .faults
      have locked : (if env.updatePrivateVma then [(PdCall.lockParent, parent)] else []).find?
          env.fails = none :=
        find?_guarded fun used failed => locks (Bool.and_eq_true_iff.mpr ⟨used, failed⟩)
      rw [if_neg locks, locked, Option.none_or, List.find?_append]
      by_cases grows : !(tables parent).entries && !env.callocEntries parent
      case pos =>
        obtain ⟨missing, refused⟩ := Bool.and_eq_true_iff.mp grows
        have failed : env.fails (.entries, parent) := refused
        have absent : ¬ (tables parent).entries := by simpa using missing
        rw [if_pos grows, if_neg absent, List.find?_cons_of_pos failed]
        refine .harmless nofun start sound ?_
        intro idx _ under
        exact absurd under (child_not_before parent idx)
      have grown : (if (tables parent).entries then [] else [(PdCall.entries, parent)]).find?
          env.fails = none := by
        rw [← ite_not]
        refine find?_guarded fun missing failed => grows (Bool.and_eq_true_iff.mpr ⟨?_, failed⟩)
        simpa using missing
      have inside : ¬ (vmPtNumEntries parent.length ≤ pdIndex parent.length saddr
          ∨ vmPtNumEntries parent.length ≤ pdIndex parent.length eaddr) := by
        have bounds := fits
        unfold Fits at bounds
        omega
      rw [if_neg grows, grown, Option.none_or, if_neg inside]
      have bits := bit_markEntries (pdIndex parent.length saddr) (pdIndex parent.length eaddr)
        usable.2
      have ready := usable_markEntries (pdIndex parent.length saddr)
        (pdIndex parent.length eaddr) usable
      generalize markEntries (pdIndex parent.length saddr) (pdIndex parent.length eaddr)
        { tables parent with entries := true } = marked at bits ready
      have member : ∀ i, i ∈ pdIndices parent.length saddr eaddr
          ↔ pdIndex parent.length saddr ≤ i ∧ i ≤ pdIndex parent.length eaddr := by
        intro i
        refine List.mem_range'_1.trans ?_
        omega
      have here : Function.update tables parent marked parent = marked := Function.update_self ..
      have same : ∀ idx path, parent ++ [idx] <+: path
          → Function.update tables parent marked path = tables path := by
        intro idx path under
        apply Function.update_of_ne
        rintro rfl
        exact child_not_before _ idx under
      have waiting : PdTables.SoundBut (Function.update tables parent marked) fun path =>
          pending path ∨ ∃ idx ∈ pdIndices parent.length saddr eaddr, path = parent ++ [idx] := by
        apply sound.update ready
        · intro idx set
          rw [bits, Bool.or_eq_true, decide_eq_true_eq] at set
          rcases set with new | old
          · exact .inr (.inr ⟨idx, (member idx).mpr new, rfl⟩)
          · exact .inl old
        · exact fun path held => .inr (.inl held)
      have set : ∀ idx ∈ pdIndices parent.length saddr eaddr,
          (Function.update tables parent marked parent).bit idx := by
        intro idx found
        rw [here, bits, Bool.or_eq_true, decide_eq_true_eq]
        exact .inl ((member idx).mp found)
      have loop := visitEntries_ends saddr eaddr ih level
        List.pairwise_lt_range' set waiting
      rw [List.flatMap_congr fun idx _ => childCalls_congr (same idx)] at loop
      apply loop.within (.update fun _ => ready) List.prefix_rfl
      intro _ path _
      change PdTables.Covered _ (remaining + 1) parent saddr eaddr path ↔ _
      exact covered_congr same

-----------------------------------------------------------------------------------------
-- The whole call
-----------------------------------------------------------------------------------------

/-- Addresses of 28 bits fit the root. -/
theorem fits_root (inRange : saddr < 2 ^ 28 ∧ eaddr < 2 ^ 28) : Fits 0 saddr eaddr := by
  have small : ∀ addr, addr < 2 ^ 28 → pdIndex 0 addr < vmPtNumEntries 0 := by
    intro addr below
    refine Nat.lt_of_le_of_lt (Nat.mod_le _ _) ?_
    rw [Nat.shiftRight_eq_div_pow]
    exact Nat.div_lt_of_lt_mul below
  exact ⟨small saddr inRange.1, small eaddr inRange.2⟩

/-- After an error no entry holds a destroyed buffer, each bit of a directory belongs to an
entry with a live one and usable entries are kept, exactly if the call fails harmlessly.
-/
theorem vidmmVmAllocPd_failureSafe_iff (env : PdEnvironment) (sound : tables.Sound)
    (inRange : saddr < 2 ^ 28 ∧ eaddr < 2 ^ 28)
    : (∀ after status, env.vidmmVmAllocPd 2 tables [] saddr eaddr = some (after, status)
          → status ≠ .ok → after.Safe ∧ tables.Kept after)
      ↔ env.FailsHarmlessly tables saddr eaddr := by
  have complete : tables.SoundBut fun _ => False :=
    ⟨sound.undestroyed, fun directory idx level bit _ => sound.backed directory idx level bit,
      sound.bitmaps⟩
  have ends := allocates env 2 [] tables _ saddr eaddr rfl sound.root complete
    (fits_root inRange)
  unfold FailsHarmlessly
  generalize (env.calls 2 tables [] saddr eaddr).find? env.fails = first at ends ⊢
  generalize env.vidmmVmAllocPd 2 tables [] saddr eaddr = result at ends ⊢
  cases ends with
  | succeeds grown sound =>
      refine ⟨fun _ _ _ found => (by cases found), fun _ _ _ returned error => ?_⟩
      cases returned
      exact absurd rfl error
  | faults =>
      refine ⟨fun _ _ _ found => ?_, fun _ _ _ returned => (by cases returned)⟩
      cases found
      exact .inl rfl
  | harmless error grown sound all =>
      constructor
      · intro _ call path found
        cases found
        exact .inr ⟨rfl, all⟩
      · intro _ after status returned _
        cases returned
        refine ⟨⟨sound.undestroyed, fun directory idx level bit => ?_⟩, grown.kept⟩
        exact sound.backed directory idx level bit id
  | harmful error grown harmed returns uncovered =>
      constructor
      · intro safe
        obtain ⟨directory, idx, _, level, bit, dead⟩ := harmed
        exact absurd ((safe _ _ rfl error).1.backed directory idx level bit) dead
      · intro harmlessly
        rcases harmlessly _ _ rfl with locked | ⟨entries, all⟩
        · exact absurd locked returns
        · exact absurd all (uncovered entries)

theorem fresh_sound : PdTables.fresh.Sound where
  undestroyed path _ := by
    unfold PdTables.fresh
    split <;> rfl
  backed directory idx _ bit := by
    unfold PdTables.fresh VmPt.bit at bit
    split at bit <;> cases bit
  bitmaps path buffer := by
    unfold PdTables.fresh at buffer ⊢
    split at buffer
    · rename_i root
      rw [if_pos root]
      rfl
    · cases buffer
  root := ⟨⟨rfl, rfl⟩, rfl⟩

/-- All calls succeed, but for mapping some buffers and allocating some arrays. -/
def failing (maps callocs : List Nat → Bool) : PdEnvironment where
  pageTableLocalEnable := true
  pageTablePcieEnable := false
  cpuUpdatePte := false
  updatePrivateVma := false
  createSegmentMemory _ _ := true
  mapSegmentMemory path := if maps path then .ok else .fail
  lockSegmentMemory _ := true
  lockParent _ := true
  callocEntries := callocs
  callocBitmap _ := true

/-- The directory of the last root entry gets no `entries`. -/
theorem entriesFail_failureSafe
    : ∃ after status,
        (failing (fun _ => true) (· = [])).vidmmVmAllocPd 2 PdTables.fresh [] 0 0
            = some (after, status)
          ∧ status ≠ .ok ∧ after.Safe ∧ PdTables.fresh.Kept after := by
  have harmless : (failing (fun _ => true) (· = [])).FailsHarmlessly PdTables.fresh 0 0 := by
    intro call path found
    have first : ((failing (fun _ => true) (· = [])).calls 2 PdTables.fresh [] 0 0).find?
        (failing (fun _ => true) (· = [])).fails = some (.entries, [0]) := rfl
    obtain ⟨rfl, rfl⟩ := Prod.mk.inj (Option.some.inj (first.symm.trans found))
    refine .inr ⟨rfl, fun idx member _ => ⟨fun later among less => ?_, fun next _ under => ?_⟩⟩
    · obtain rfl := List.mem_singleton.mp member
      obtain rfl := List.mem_singleton.mp among
      exact absurd less (Nat.lt_irrefl 0)
    · have longer := under.length_le
      simp at longer
  have low : 0 < 2 ^ 28 := Nat.two_pow_pos 28
  refine ⟨_, .outOfMemory, rfl, by decide, ?_⟩
  exact (vidmmVmAllocPd_failureSafe_iff _ fresh_sound ⟨low, low⟩).mpr harmless _ _ rfl (by decide)

/-- The buffer of the first root entry cannot be mapped: it is destroyed, and the entry still
points to it.
-/
theorem mapFails_not_failureSafe
    : (∃ after, (failing (fun _ => false) fun _ => true).vidmmVmAllocPd 2 PdTables.fresh [] 0 0
            = some (after, .fail)
          ∧ (after []).bit 0 ∧ (after [0]).buffer ∧ (after [0]).destroyed)
      ∧ ¬ ∀ (env : PdEnvironment) (tables : PdTables), tables.Sound
        → ∀ saddr eaddr, saddr < 2 ^ 28 ∧ eaddr < 2 ^ 28
        → ∀ after status, env.vidmmVmAllocPd 2 tables [] saddr eaddr = some (after, status)
        → status ≠ .ok → after.Safe ∧ tables.Kept after := by
  have fails : ∃ after, (failing (fun _ => false) fun _ => true).vidmmVmAllocPd 2 PdTables.fresh
      [] 0 0 = some (after, .fail)
        ∧ (after []).bit 0 ∧ (after [0]).buffer ∧ (after [0]).destroyed :=
    ⟨_, rfl, rfl, rfl, rfl⟩
  refine ⟨fails, fun claim => ?_⟩
  obtain ⟨after, returned, _, buffer, destroyed⟩ := fails
  have safe := (claim _ _ fresh_sound 0 0 ⟨by decide, by decide⟩ after _ returned nofun).1
  exact absurd (safe.undestroyed [0] buffer) (by rw [destroyed]; decide)

end PdEnvironment

end Cx4Kernel.Vidmm
