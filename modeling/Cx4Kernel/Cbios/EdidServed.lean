import Mathlib.Data.List.Basic
import Mathlib.Data.List.GetD
import Cx4Kernel.Cbios.EdidRead

/-! What the EDID reads give when the bus works, or is at least not in use by HDCP. -/

namespace Cx4Kernel.Cbios

-----------------------------------------------------------------------------------------
-- Bytes of a monitor
-----------------------------------------------------------------------------------------

namespace Monitor

variable (monitor : Monitor)

theorem length_bytes (start size : Nat) : (monitor.bytes start size).length = size := by
  rw [bytes, List.length_map, List.length_range]

theorem getD_bytes {start size i : Nat} (h : i < size)
    : (monitor.bytes start size).getD i 0 = monitor (start + i) := by
  rw [List.getD_eq_getElem?_getD, bytes, List.getElem?_map, List.getElem?_range h]
  rfl

/-- A part of the bytes. -/
theorem take_drop_bytes {start size skipped count : Nat} (h : skipped + count ≤ size)
    : ((monitor.bytes start size).drop skipped).take count = monitor.bytes (start + skipped) count := by
  apply List.ext_getElem?
  intro i
  rw [List.getElem?_take, bytes, bytes]
  split
  · rename_i inside
    rw [List.getElem?_drop, List.getElem?_map, List.getElem?_map, List.getElem?_range inside,
      List.getElem?_range (by omega), Option.map_some, Option.map_some, Nat.add_assoc]
  · rename_i outside
    rw [List.getElem?_map, List.getElem?_eq_none (by simpa using outside)]
    rfl

/-- The number of extension blocks that the monitor announces. -/
def extBlockNum : Nat := cbEdidModuleGetExtBlockNum (monitor.bytes 0 256)

/-- The extension flag of the base block. -/
def extFlag : Nat := (monitor 0x7E).toNat

/-- One block as the monitor serves it. -/
def block (i : Nat) : List U8 := monitor.bytes (edidBlkSize * i) edidBlkSize

/-- The blocks that `cbGetFullEdid` reads. -/
def blockCount : Nat := max monitor.extFlag monitor.extBlockNum + 1

/-- One block as `cbGetFullEdid` keeps it: damaged extension blocks are cleared. -/
def keptBlock (i : Nat) : List U8 :=
  if cbIsEdidChecksumValid (monitor.block i) then monitor.block i
  else if i = 0 then cbFixEdidChecksum (monitor.block 0)
  else List.replicate edidBlkSize 0

/-- The EDID as `cbGetFullEdid` keeps it. -/
def fullEdid : List U8 := (List.range monitor.blockCount).flatMap monitor.keptBlock

/-- The signature that the bytes of `count` blocks make up. -/
def signature (count : Nat) : DeviceSignature where
  monitorId := monitor.bytes 8 4
  extFlagChecksum :=
    (List.range edidMaxBlkCnt).map fun i =>
      if i < min count edidMaxBlkCnt then monitor.bytes (i * edidBlkSize + 126) 2 else [0, 0]

theorem length_keptBlock (i : Nat) : (monitor.keptBlock i).length = edidBlkSize := by
  have length : (monitor.block i).length = edidBlkSize := length_bytes ..
  rw [keptBlock]
  split
  · exact length
  · split
    · rw [cbFixEdidChecksum, List.length_append, List.length_take, block, length_bytes]
      rfl
    · exact List.length_replicate

/-- The number of extension blocks by the bytes it depends on. -/
theorem extBlockNum_eq {bytes : List U8}
    (same : ∀ i : Nat, i = 0x7E ∨ i = 0x84 ∨ i = 0x85 ∨ i = 0x86 → bytes.getD i 0 = monitor i)
    : cbEdidModuleGetExtBlockNum bytes = monitor.extBlockNum := by
  have served {i : Nat} (h : i < 256) : (monitor.bytes 0 256).getD i 0 = monitor i := by
    rw [monitor.getD_bytes h, Nat.zero_add]
  rw [extBlockNum, cbEdidModuleGetExtBlockNum, cbEdidModuleGetExtBlockNum,
    same 0x7E (by decide), same 0x84 (by decide), same 0x85 (by decide), same 0x86 (by decide),
    served (by decide), served (by decide), served (by decide), served (by decide)]

end Monitor

-----------------------------------------------------------------------------------------
-- One read
-----------------------------------------------------------------------------------------

namespace EdidSource

variable {source : EdidSource}

/-- Every transfer goes through. -/
def allDone : Line := fun _ _ => .done

/-- No read of the line is answered from the cache. -/
def NoHdcp (source : EdidSource) (line : Line) : Prop :=
  source.dpMode = false → cbEdidModuleIsEdidHeaderValid source.edidData
    → ∀ read j, line read j ≠ .hdcpUsingI2c

/-- Tries that all go through give the bytes of the monitor, by induction on the tries. -/
theorem i2cNormalTries_done {offset size seg tries j : Nat} {edidData : List U8}
    (some : 0 < tries)
    : let bytes := source.monitor.bytes (seg * 256 + offset) size
      source.i2cNormalTries (fun _ => .done) offset size seg tries j edidData
        = (if aligned offset size ∧ ¬ cbIsEdidChecksumValid bytes then .erInternal else .ok, bytes) := by
  intro bytes
  induction tries generalizing j edidData with
  | zero => cases some
  | succ tries ih =>
      by_cases damaged : aligned offset size ∧ ¬ cbIsEdidChecksumValid bytes
      · have again : source.i2cNormalTries (fun _ => .done) offset size seg (tries + 1) j edidData
            = source.i2cNormalTries (fun _ => .done) offset size seg tries (j + 1) bytes :=
          if_pos damaged
        rw [again, if_pos damaged]
        cases tries with
        | zero => rfl
        | succ tries => rw [ih (Nat.succ_pos _), if_pos damaged]
      · rw [if_neg damaged]
        exact if_neg damaged

/-- A read whose transfers go through succeeds unless a whole block is damaged. -/
theorem cbGetEdidPerSeg_done {offset size seg : Nat} {edidData : List U8}
    : let bytes := source.monitor.bytes (seg * 256 + offset) size
      source.cbGetEdidPerSeg (fun _ => .done) edidData offset size seg
        = (decide (¬ (aligned offset size ∧ ¬ cbIsEdidChecksumValid bytes)), bytes) := by
  intro bytes
  rw [cbGetEdidPerSeg]
  by_cases dp : source.dpMode
  · rw [if_pos dp]
    rfl
  · rw [if_neg dp, cbI2cNormalReadEdid, i2cNormalTries_done (by decide)]
    change (if _ then _ else _) = _
    by_cases damaged : aligned offset size ∧ ¬ cbIsEdidChecksumValid bytes
    · rw [if_pos damaged, if_neg fun h => nomatch h.1]
      exact Prod.ext (decide_eq_false (not_not_intro damaged)).symm rfl
    · rw [if_neg damaged, if_neg fun h => nomatch h.1]
      exact Prod.ext (decide_eq_true damaged).symm rfl

/-- A read whose first transfer goes through succeeds on an undamaged block. -/
theorem cbGetEdidPerSeg_valid {attempts : Attempts} {offset size seg : Nat} {edidData : List U8}
    (first : attempts 0 = .done)
    (valid : cbIsEdidChecksumValid (source.monitor.bytes (seg * 256 + offset) size))
    : source.cbGetEdidPerSeg attempts edidData offset size seg
        = (true, source.monitor.bytes (seg * 256 + offset) size) := by
  rw [cbGetEdidPerSeg]
  split
  · rw [cbI2cOverAuxReadEdid, first]
    simp [valid]
  · rw [cbI2cNormalReadEdid, i2cNormalTries, first]
    simp [valid]

/-- Tries that succeed give the bytes of the monitor, by induction on the tries. -/
theorem i2cNormalTries_ok {attempts : Attempts} {offset size seg tries j : Nat}
    {edidData : List U8}
    : let result := source.i2cNormalTries attempts offset size seg tries j edidData
      (result.1 = .erHdcpUsingI2c → ∃ j, attempts j = .hdcpUsingI2c)
        ∧ (result.1 = .ok → result.2 = source.monitor.bytes (seg * 256 + offset) size) := by
  induction tries generalizing j edidData with
  | zero => exact ⟨nofun, nofun⟩
  | succ tries ih =>
      rw [i2cNormalTries]
      cases outcome : attempts j with
      | done =>
          simp only
          split
          · exact ih
          · exact ⟨nofun, fun _ => rfl⟩
      | failed left => exact ⟨nofun, nofun⟩
      | hdcpUsingI2c => exact ⟨fun _ => ⟨j, outcome⟩, nofun⟩

/-- A read that is not answered from the cache and succeeds gives the bytes of the monitor. -/
theorem cbGetEdidPerSeg_ok {attempts : Attempts} {offset size seg : Nat} {edidData : List U8}
    (free : source.dpMode = false → cbEdidModuleIsEdidHeaderValid source.edidData
      → ∀ j, attempts j ≠ .hdcpUsingI2c)
    (ok : (source.cbGetEdidPerSeg attempts edidData offset size seg).1 = true)
    : (source.cbGetEdidPerSeg attempts edidData offset size seg).2
        = source.monitor.bytes (seg * 256 + offset) size := by
  rw [cbGetEdidPerSeg] at ok ⊢
  split
  · rename_i dp
    rw [if_pos dp, cbI2cOverAuxReadEdid] at ok
    rw [cbI2cOverAuxReadEdid]
    cases outcome : attempts 0 with
    | done => rfl
    | failed left => simp [outcome] at ok
    | hdcpUsingI2c => simp [outcome] at ok
  · rename_i i2c
    rw [if_neg i2c] at ok
    obtain ⟨answered, bytes⟩ := @i2cNormalTries_ok source attempts offset size seg 3 0 edidData
    rw [cbI2cNormalReadEdid] at ok ⊢
    simp only at ok ⊢
    split
    · rename_i cached
      obtain ⟨j, used⟩ := answered cached.1
      exact absurd used (free (Bool.eq_false_iff.mpr i2c) cached.2.1 j)
    · rename_i read
      rw [if_neg read] at ok
      exact bytes (of_decide_eq_true ok)

-----------------------------------------------------------------------------------------
-- Reads one after the other
-----------------------------------------------------------------------------------------

/-- A reader returns the value or fails as long as the cache does not answer, and returns it when
every transfer goes through.
-/
structure Delivers (source : EdidSource) {α : Type} (reader : Reader α) (value : α) : Prop where
  sound : ∀ line, source.NoHdcp line → ∀ result, (reader.run.run line).1 = some result → result = value
  rest : ∀ line, source.NoHdcp line → source.NoHdcp (reader.run.run line).2
  complete : reader.run.run allDone = (some value, allDone)

namespace Delivers

variable {α β : Type} {reader : Reader α} {value : α} {result : β}

theorem pure (value : α) : source.Delivers (return value) value where
  sound _ _ _ h := (Option.some.inj h).symm
  rest _ free := free
  complete := rfl

/-- What a reader goes on with after another one. -/
theorem run_bind (reader : Reader α) (next : α → Reader β) (line : Line)
    : (reader >>= next).run.run line
      = (reader.run.run line).1.elim (none, (reader.run.run line).2) fun found =>
          (next found).run.run (reader.run.run line).2 := by
  change (match (reader.run.run line).1 with
    | some found => (next found).run
    | none => (Pure.pure none : StateM Line (Option β))).run (reader.run.run line).2 = _
  cases (reader.run.run line).1 with
  | none => rfl
  | some found => rfl

/-- A reader may go on with what another one delivers. -/
theorem bind {next : α → Reader β} (first : source.Delivers reader value)
    (second : source.Delivers (next value) result)
    : source.Delivers (reader >>= next) result where
  sound line free outcome h := by
    rw [run_bind] at h
    cases read : (reader.run.run line).1 with
    | none =>
        rw [read] at h
        cases h
    | some found =>
        rw [read, first.sound line free found read] at h
        exact second.sound _ (first.rest line free) outcome h
  rest line free := by
    rw [run_bind]
    cases read : (reader.run.run line).1 with
    | none => exact first.rest line free
    | some found =>
        rw [first.sound line free found read]
        exact second.rest _ (first.rest line free)
  complete := by
    rw [run_bind, first.complete]
    exact second.complete

end Delivers

variable (source)

/-- A read of less than a block. -/
theorem readPerSeg_delivers {offset size seg : Nat} (part : size % edidBlkSize ≠ 0)
    : source.Delivers (source.readPerSeg offset size seg)
        (source.monitor.bytes (seg * 256 + offset) size) where
  sound line free result h := by
    change (if (source.cbGetEdidPerSeg (line 0) _ offset size seg).1 then
      some (source.cbGetEdidPerSeg (line 0) _ offset size seg).2 else none) = some result at h
    rw [Option.ite_none_right_eq_some] at h
    rw [← Option.some.inj h.2]
    exact cbGetEdidPerSeg_ok (fun i2c cached => free i2c cached 0) h.1
  rest line free i2c cached read j := free i2c cached (read + 1) j
  complete := by
    have unaligned : ¬ (aligned offset size
        ∧ ¬ cbIsEdidChecksumValid (source.monitor.bytes (seg * 256 + offset) size)) :=
      fun h => part (of_decide_eq_true h.1).1
    have read := @cbGetEdidPerSeg_done source offset size seg (List.replicate size 0)
    change (if (source.cbGetEdidPerSeg (fun _ => .done) _ offset size seg).1 then
      some (source.cbGetEdidPerSeg (fun _ => .done) _ offset size seg).2 else none, allDone) = _
    rw [read]
    simp only [decide_eq_true unaligned, if_true]

theorem cbGetExtBlockNum_delivers
    : source.Delivers source.cbGetExtBlockNum source.monitor.extBlockNum := by
  have served {i : Nat} (h : i < 256) : (source.monitor.bytes 0 256).getD i 0 = source.monitor i := by
    rw [source.monitor.getD_bytes h, Nat.zero_add]
  have flag : (source.monitor.bytes 0x7E 1).getD 0 0 = source.monitor 0x7E :=
    source.monitor.getD_bytes (by decide)
  refine (source.readPerSeg_delivers (by decide)).bind ?_
  simp only [Nat.zero_mul, Nat.zero_add, flag]
  rw [Monitor.extBlockNum, cbEdidModuleGetExtBlockNum]
  simp only [served (show 0x7E < 256 by decide), served (show 0x84 < 256 by decide),
    served (show 0x85 < 256 by decide), served (show 0x86 < 256 by decide)]
  by_cases none : source.monitor 0x7E = 0
  · rw [if_pos none, if_pos none]
    exact .pure 0
  · rw [if_neg none, if_neg none]
    refine (source.readPerSeg_delivers (by decide)).bind ?_
    simp only [Nat.zero_mul, Nat.zero_add, source.monitor.getD_bytes (show 0 < 3 by decide),
      source.monitor.getD_bytes (show 1 < 3 by decide),
      source.monitor.getD_bytes (show 2 < 3 by decide)]
    split
    · exact .pure _
    · exact .pure _

/-- Some bytes within one segment and before the end of the EDID. -/
theorem cbGetEdidBytes_delivers {offset size : Nat} (positive : 0 < size)
    (inside : offset % 256 + size ≤ 256) (part : size % edidBlkSize ≠ 0)
    (segment : offset / 256 < 256)
    (announced : offset + size ≤ edidBlkSize * (source.monitor.extBlockNum + 1))
    : source.Delivers (source.cbGetEdidBytes offset size) (source.monitor.bytes offset size) := by
  have segments : source.Delivers (source.readSegments size offset size)
      (source.monitor.bytes offset size) := by
    obtain ⟨rounds, rfl⟩ := Nat.exists_eq_succ_of_ne_zero (Nat.ne_of_gt positive)
    have once : min (256 - offset % 256) (rounds + 1) = rounds + 1 := by omega
    have address : offset / 256 % 256 * 256 + offset % 256 = offset := by omega
    rw [Nat.succ_eq_add_one, readSegments, if_neg (Nat.succ_ne_zero _)]
    simp only [once]
    have first := @readPerSeg_delivers source (offset % 256) (rounds + 1) (offset / 256 % 256) part
    rw [address] at first
    have last : source.Delivers (source.readSegments rounds (offset + (rounds + 1)) 0) [] := by
      cases rounds with
      | zero => exact .pure []
      | succ rounds => exact .pure []
    refine first.bind ?_
    rw [Nat.sub_self]
    refine last.bind ?_
    rw [List.append_nil]
    exact .pure _
  have within : (offset + size) / edidBlkSize + (if (offset + size) % edidBlkSize ≠ 0 then 1 else 0)
      ≤ source.monitor.extBlockNum + 1 := by
    rw [edidBlkSize] at announced ⊢
    split <;> omega
  rw [cbGetEdidBytes, if_neg (Nat.ne_of_gt positive)]
  generalize (offset + size) / edidBlkSize + _ = toBlockIdx at within ⊢
  by_cases extension : 1 < toBlockIdx
  · rw [if_pos extension]
    refine source.cbGetExtBlockNum_delivers.bind ?_
    rw [if_neg (Nat.not_lt.mpr within)]
    exact segments
  · rw [if_neg extension]
    exact segments

/-- The bytes of the extension blocks, by induction on the blocks. -/
theorem readExtFlagChecksum_delivers {count i : Nat} (positive : 0 < i)
    (few : i + count ≤ edidMaxBlkCnt) (announced : i + count ≤ source.monitor.extBlockNum + 1)
    : source.Delivers (source.readExtFlagChecksum count i)
        ((List.range' i count).map fun i => source.monitor.bytes (i * edidBlkSize + 126) 2) := by
  induction count generalizing i with
  | zero => exact .pure []
  | succ count ih =>
      rw [edidMaxBlkCnt] at few
      have first : source.Delivers (source.cbGetEdidBytes (edidBlkSize * i + 126) 2)
          (source.monitor.bytes (edidBlkSize * i + 126) 2) := by
        apply source.cbGetEdidBytes_delivers (by decide) _ (by decide)
        · rw [edidBlkSize]
          omega
        · rw [edidBlkSize]
          omega
        · rw [edidBlkSize]
          omega
      rw [Nat.mul_comm] at first
      rw [readExtFlagChecksum, Nat.mul_comm]
      refine first.bind ((ih (Nat.succ_pos i) ?_ ?_).bind (.pure _))
      · rw [edidMaxBlkCnt]
        omega
      · omega

/-- A table filled up to some place. -/
theorem map_range_fill {α : Type} (f : Nat → α) (fill : α) {count size : Nat} (h : count ≤ size)
    : ((List.range size).map fun i => if i < count then f i else fill)
      = (List.range count).map f ++ List.replicate (size - count) fill := by
  obtain ⟨more, rfl⟩ := Nat.exists_eq_add_of_le h
  rw [Nat.add_sub_cancel_left, List.range_add, List.map_append, List.map_map]
  congr 1
  · apply List.map_congr_left
    intro i inside
    rw [if_pos (List.mem_range.mp inside)]
  · rw [List.map_eq_replicate_iff.mpr, List.length_range]
    intro i _
    exact if_neg (Nat.not_lt.mpr (Nat.le_add_right count i))

/-- The signature that is read is that of the blocks the monitor announces. -/
theorem cbGetDeviceSignature_delivers
    : source.Delivers source.cbGetDeviceSignature
        (source.monitor.signature (source.monitor.extBlockNum + 1)) := by
  have announced (bytes : Nat) (h : bytes ≤ 128)
      : bytes ≤ edidBlkSize * (source.monitor.extBlockNum + 1) := by
    rw [edidBlkSize]
    omega
  have id : source.Delivers (source.cbGetEdidBytes 8 4) (source.monitor.bytes 8 4) :=
    source.cbGetEdidBytes_delivers (by decide) (by decide) (by decide) (by decide)
      (announced _ (by decide))
  have base : source.Delivers (source.cbGetEdidBytes 126 2) (source.monitor.bytes 126 2) :=
    source.cbGetEdidBytes_delivers (by decide) (by decide) (by decide) (by decide)
      (announced _ (by decide))
  have exts := source.cbGetExtBlockNum_delivers
  have few : 1 + (min edidMaxBlkCnt (source.monitor.extBlockNum + 1) - 1)
      = min (source.monitor.extBlockNum + 1) edidMaxBlkCnt := by
    rw [edidMaxBlkCnt]
    omega
  have rest := @readExtFlagChecksum_delivers source
    (min edidMaxBlkCnt (source.monitor.extBlockNum + 1) - 1) 1 (by decide) (by omega) (by omega)
  refine id.bind (base.bind (exts.bind (rest.bind ?_)))
  have value : (source.monitor.signature (source.monitor.extBlockNum + 1)).extFlagChecksum
      = (source.monitor.bytes 126 2
          :: (List.range' 1 (min edidMaxBlkCnt (source.monitor.extBlockNum + 1) - 1)).map fun i =>
            source.monitor.bytes (i * edidBlkSize + 126) 2)
        ++ List.replicate
            (edidMaxBlkCnt - (min edidMaxBlkCnt (source.monitor.extBlockNum + 1) - 1 + 1)) [0, 0] := by
    rw [Monitor.signature, map_range_fill _ _ (Nat.min_le_right _ _), ← few, Nat.add_comm 1,
      List.range_eq_range', List.range'_succ, List.map_cons, Nat.zero_mul, Nat.zero_add]
  have whole : source.monitor.signature (source.monitor.extBlockNum + 1)
      = ⟨source.monitor.bytes 8 4,
          (source.monitor.signature (source.monitor.extBlockNum + 1)).extFlagChecksum⟩ := rfl
  rw [whole, value]
  exact .pure _

-----------------------------------------------------------------------------------------
-- The full EDID
-----------------------------------------------------------------------------------------

/-- The read of a block gives what the monitor serves, and succeeds if that is undamaged. -/
def Served (line : Line) (i : Nat) : Prop :=
  source.cbGetEdidPerSeg (line i) (List.replicate edidBlkSize 0) (i * edidBlkSize % 256)
      edidBlkSize (i * edidBlkSize / 256 % 256)
    = (cbIsEdidChecksumValid (source.monitor.block i), source.monitor.block i)

variable {line : Line} {i : Nat}

/-- The block lies where its number says. -/
theorem block_address (few : i < 256)
    : source.monitor.bytes (i * edidBlkSize / 256 % 256 * 256 + i * edidBlkSize % 256) edidBlkSize
      = source.monitor.block i := by
  have address : i * edidBlkSize / 256 % 256 * 256 + i * edidBlkSize % 256 = edidBlkSize * i := by
    rw [edidBlkSize]
    omega
  rw [address, Monitor.block]

theorem served_allDone (few : i < 256) : source.Served allDone i := by
  refine cbGetEdidPerSeg_done.trans ?_
  rw [source.block_address few]
  have aligned : aligned (i * edidBlkSize % 256) edidBlkSize := by
    rw [aligned, edidBlkSize]
    exact decide_eq_true (by omega)
  refine Prod.ext ?_ rfl
  cases valid : cbIsEdidChecksumValid (source.monitor.block i) with
  | true => exact decide_eq_true fun damaged => damaged.2 rfl
  | false => exact decide_eq_false (not_not_intro ⟨aligned, nofun⟩)

theorem served_of_valid (few : i < 256) (first : line i 0 = .done)
    (valid : cbIsEdidChecksumValid (source.monitor.block i))
    : source.Served line i := by
  have valid' := valid
  rw [← source.block_address few] at valid'
  rw [Served, cbGetEdidPerSeg_valid first valid', source.block_address few, valid]

/-- The base block, if it is kept. -/
theorem keptBaseBlock_served {block : List U8}
    (h : keptBaseBlock (cbIsEdidChecksumValid (source.monitor.block 0)) (source.monitor.block 0)
      = some block)
    : block = source.monitor.keptBlock 0 := by
  rw [keptBaseBlock] at h
  rw [Monitor.keptBlock]
  split at h
  · rename_i valid
    rw [if_pos valid]
    exact (Option.some.inj h).symm
  · rename_i damaged
    rw [if_neg damaged]
    exact (Option.some.inj (Option.ite_none_right_eq_some.mp h).2).symm

/-- The base block keeps all its bytes but the last one. -/
theorem getD_keptBlock_zero (h : i < 127)
    : (source.monitor.keptBlock 0).getD i 0 = source.monitor i := by
  have raw : (source.monitor.block 0).getD i 0 = source.monitor i := by
    rw [Monitor.block, source.monitor.getD_bytes (by rw [edidBlkSize]; omega)]
    exact congrArg source.monitor (Nat.zero_add i)
  rw [Monitor.keptBlock]
  split
  · exact raw
  · have before : i < edidBlkSize - 1 := h
    have length : ((source.monitor.block 0).take (edidBlkSize - 1)).length = edidBlkSize - 1 := by
      rw [List.length_take, Monitor.block, Monitor.length_bytes]
      rfl
    rw [if_pos rfl, cbFixEdidChecksum, List.getD_append _ _ _ _ (length.symm ▸ before),
      List.getD_eq_getElem?_getD, List.getElem?_take_of_lt before, ← List.getD_eq_getElem?_getD]
    exact raw

/-- How many blocks the buffer has room for before a round of `cbGetFullEdid`. -/
def room : Nat → Nat
  | 0 => 1
  | 1 => source.monitor.extFlag + 1
  | _ => source.monitor.blockCount

/-- The loop of `cbGetFullEdid` before the round for a block. -/
structure Keeps (blkIndex : Nat) (state : FullEdidRead) : Prop where
  blocks : state.blocks = (List.range blkIndex).flatMap source.monitor.keptBlock
  size : state.edidSize = source.room blkIndex * edidBlkSize
  within : blkIndex ≤ source.room blkIndex
  extsNum : 2 ≤ blkIndex → state.extsNum = source.monitor.extBlockNum

/-- A larger buffer has room for the extension blocks. -/
theorem grow_ok {buffer edidSize extsNum : Nat} {blocks : List U8} {pool : Pool}
    {grown : FullEdidRead} {allocated : Bool}
    (h : FullEdidRead.grow ⟨buffer, blocks, edidSize, extsNum, pool⟩ allocated = .ok grown)
    : grown.blocks = blocks ∧ grown.extsNum = extsNum
      ∧ grown.edidSize = max edidSize ((extsNum + 1) * edidBlkSize) := by
  rw [FullEdidRead.grow] at h
  split at h
  · rename_i small
    split at h
    · cases h
      exact ⟨rfl, rfl, (Nat.max_eq_right (Nat.le_of_lt small)).symm⟩
    · cases h
  · rename_i large
    cases h
    exact ⟨rfl, rfl, (Nat.max_eq_left (Nat.not_lt.mp large)).symm⟩

/-- The number of extension blocks does not depend on the last byte of the base block. -/
theorem extBlockNum_kept
    : cbEdidModuleGetExtBlockNum (source.monitor.keptBlock 0 ++ source.monitor.block 1)
      = source.monitor.extBlockNum := by
  have length := source.monitor.length_keptBlock 0
  have second {i : Nat} (h : i < 128)
      : (source.monitor.keptBlock 0 ++ source.monitor.block 1).getD (128 + i) 0
        = source.monitor (128 + i) := by
    rw [List.getD_append_right _ _ _ _ (by rw [length, edidBlkSize]; omega), length,
      show 128 + i - edidBlkSize = i from Nat.add_sub_cancel_left ..]
    exact source.monitor.getD_bytes h
  apply source.monitor.extBlockNum_eq
  rintro i (rfl | rfl | rfl | rfl)
  · rw [List.getD_append _ _ _ _ (by rw [length]; decide)]
    exact source.getD_keptBlock_zero (by decide)
  · exact second (show 4 < 128 by decide)
  · exact second (show 5 < 128 by decide)
  · exact second (show 6 < 128 by decide)

theorem extFlag_lt : source.monitor.extFlag < 256 := (source.monitor 0x7E).isLt

theorem extBlockNum_lt : source.monitor.extBlockNum < 256 := by
  rw [Monitor.extBlockNum, cbEdidModuleGetExtBlockNum]
  split
  · decide
  · split
    · exact BitVec.isLt _
    · exact BitVec.isLt _

/-- Without an extension flag there are no extension blocks. -/
theorem extBlockNum_of_extFlag (h : source.monitor.extFlag = 0) : source.monitor.extBlockNum = 0 := by
  have flag : (source.monitor.bytes 0 256).getD 0x7E 0 = 0 := by
    rw [source.monitor.getD_bytes (by decide)]
    exact BitVec.eq_of_toNat_eq h
  rw [Monitor.extBlockNum, cbEdidModuleGetExtBlockNum, if_pos flag]

/-- The buffer has room for the blocks that the monitor announces. -/
theorem room_succ (blkIndex : Nat)
    : let extsNum :=
        if blkIndex = 0 then source.monitor.extFlag else source.monitor.extBlockNum
      max (source.room blkIndex) (extsNum + 1) = source.room (blkIndex + 1) := by
  rcases blkIndex with _ | _ | blkIndex
  · exact Nat.max_eq_right (Nat.le_add_left ..)
  · exact (Nat.add_max_add_right ..)
  · exact Nat.max_eq_left (Nat.succ_le_succ (Nat.le_max_right ..))

/-- The loop ends after the last block. -/
theorem blockCount_of_room {blkIndex : Nat} (full : source.room blkIndex = blkIndex)
    : blkIndex = source.monitor.blockCount := by
  rcases blkIndex with _ | _ | blkIndex
  · cases full
  · have flag : source.monitor.extFlag = 0 := Nat.succ.inj full
    rw [Monitor.blockCount, flag, source.extBlockNum_of_extFlag flag]
    rfl
  · exact full.symm

theorem blockCount_le : source.monitor.blockCount ≤ 256 :=
  Nat.max_lt.mpr ⟨source.extFlag_lt, source.extBlockNum_lt⟩

theorem room_le (blkIndex : Nat) : source.room blkIndex ≤ source.monitor.blockCount := by
  rcases blkIndex with _ | _ | blkIndex
  · exact Nat.succ_le_succ (Nat.zero_le _)
  · exact Nat.succ_le_succ (Nat.le_max_left ..)
  · exact Nat.le_refl _

variable {source}

/-- The loop goes on while the buffer has room. -/
theorem Keeps.left_iff {blkIndex : Nat} {state : FullEdidRead} (h : source.Keeps blkIndex state)
    : blkIndex < state.edidSize / edidBlkSize ↔ blkIndex < source.room blkIndex := by
  rw [h.size, Nat.mul_div_cancel _ (by decide)]

/-- A round goes on to the next block. -/
theorem Keeps.advance {blkIndex : Nat} {state grown : FullEdidRead} {allocated : Bool}
    {block : List U8} {extsNum : Nat} (h : source.Keeps blkIndex state)
    (kept : block = source.monitor.keptBlock blkIndex) (left : blkIndex < source.room blkIndex)
    (exts : extsNum
      = if blkIndex = 0 then source.monitor.extFlag else source.monitor.extBlockNum)
    (grows : FullEdidRead.grow { state with blocks := state.blocks ++ block, extsNum } allocated
      = .ok grown)
    : source.Keeps (blkIndex + 1) grown := by
  obtain ⟨same_blocks, same_exts, size⟩ := grow_ok grows
  have more := source.room_succ blkIndex
  constructor
  · rw [same_blocks, h.blocks, kept, List.range_succ, List.flatMap_append, List.flatMap_singleton]
  · rw [size, h.size, exts, ← more, Nat.mul_max_mul_right]
  · omega
  · intro later
    rw [same_exts, exts, if_neg (by omega)]

/-- An extension block, cleared if it is damaged. -/
theorem keptBlock_succ (blkIndex : Nat)
    : (if cbIsEdidChecksumValid (source.monitor.block (blkIndex + 1)) then
          source.monitor.block (blkIndex + 1)
        else List.replicate edidBlkSize 0)
      = source.monitor.keptBlock (blkIndex + 1) := by
  have extension : blkIndex + 1 ≠ 0 := Nat.succ_ne_zero blkIndex
  rw [Monitor.keptBlock, if_neg extension]

/-- The number of extension blocks that a round takes. -/
theorem Keeps.extsNum_eq {blkIndex : Nat} {state : FullEdidRead} (h : source.Keeps blkIndex state)
    : (if blkIndex = 0 then ((source.monitor.keptBlock blkIndex).getD 0x7E 0).toNat
        else if blkIndex = 1 then
          cbEdidModuleGetExtBlockNum (state.blocks ++ source.monitor.block blkIndex)
        else state.extsNum)
      = if blkIndex = 0 then source.monitor.extFlag else source.monitor.extBlockNum := by
  rcases blkIndex with _ | _ | blkIndex
  · rw [if_pos rfl, if_pos rfl, source.getD_keptBlock_zero (by decide), Monitor.extFlag]
  · rw [if_neg (Nat.succ_ne_zero 0), if_pos rfl, if_neg (Nat.succ_ne_zero 0), h.blocks]
    simp only [Nat.zero_add, List.range_one, List.flatMap_singleton]
    exact source.extBlockNum_kept
  · rw [if_neg (by omega), if_neg (by omega), if_neg (by omega), h.extsNum (by omega)]

/-- A round that does not fail goes on to the next block. -/
theorem Keeps.round {allocated : Nat → Bool} {rounds blkIndex : Nat}
    {state result : FullEdidRead} (served : source.Served line blkIndex)
    (h : source.Keeps blkIndex state) (left : blkIndex < source.room blkIndex)
    (ends : source.fullEdidLoop line allocated (rounds + 1) blkIndex state = .ok result)
    : ∃ grown, source.Keeps (blkIndex + 1) grown
      ∧ source.fullEdidLoop line allocated rounds (blkIndex + 1) grown = .ok result := by
  rw [Served] at served
  rw [fullEdidLoop, if_pos (h.left_iff.mpr left), served] at ends
  simp only at ends
  split at ends
  case h_1 => cases ends
  case h_2 block kept =>
    have is_kept : block = source.monitor.keptBlock blkIndex := by
      cases blkIndex with
      | zero => exact source.keptBaseBlock_served kept
      | succ blkIndex => exact (Option.some.inj kept).symm.trans (keptBlock_succ blkIndex)
    subst is_kept
    split at ends
    case h_1 => cases ends
    case h_2 grown grows => exact ⟨grown, h.advance rfl left h.extsNum_eq grows, ends⟩

/-- The blocks that the loop of `cbGetFullEdid` leaves if it does not fail, by induction on the
rounds.
-/
theorem Keeps.loop {allocated : Nat → Bool} {rounds blkIndex : Nat}
    {state result : FullEdidRead} (served : ∀ i < source.monitor.blockCount, source.Served line i)
    (h : source.Keeps blkIndex state) (enough : 256 ≤ rounds + blkIndex)
    (ends : source.fullEdidLoop line allocated rounds blkIndex state = .ok result)
    : result.blocks = source.monitor.fullEdid := by
  have few := source.room_le blkIndex
  have within := h.within
  induction rounds generalizing blkIndex state with
  | zero =>
      obtain rfl := Except.ok.inj ends
      have bound := source.blockCount_le
      have full : source.room blkIndex = blkIndex := by omega
      rw [h.blocks, source.blockCount_of_room full, Monitor.fullEdid]
  | succ rounds ih =>
      by_cases left : blkIndex < source.room blkIndex
      · obtain ⟨grown, keeps, ends⟩ := h.round (served blkIndex (by omega)) left ends
        exact ih keeps (by omega) ends (source.room_le _) keeps.within
      · have full : source.room blkIndex = blkIndex := by omega
        rw [fullEdidLoop, if_neg (mt h.left_iff.mp left)] at ends
        obtain rfl := Except.ok.inj ends
        rw [h.blocks, source.blockCount_of_room full, Monitor.fullEdid]

/-- The base block passes, so that `cbGetFullEdid` goes on. -/
def BasePasses (source : EdidSource) (line : Line) : Prop :=
  let read :=
    source.cbGetEdidPerSeg (line 0) (List.replicate edidBlkSize 0) (0 * edidBlkSize % 256)
      edidBlkSize (0 * edidBlkSize / 256 % 256)
  (keptBaseBlock read.1 read.2).isSome

/-- `cbGetFullEdid` gives the EDID of the monitor or fails, if all reads after a base block that
passes give what the monitor serves.
-/
theorem cbGetFullEdid_bytes {allocated : Option Nat → Bool} {pool : Pool}
    (served : source.BasePasses line → ∀ i < source.monitor.blockCount, source.Served line i)
    : (source.cbGetFullEdid line allocated pool).1 = .null
      ∨ (source.cbGetFullEdid line allocated pool).1.bytes = source.monitor.fullEdid := by
  rw [cbGetFullEdid]
  split
  case isFalse => exact .inl rfl
  case isTrue =>
    simp only
    split
    case h_2 => exact .inl rfl
    case h_1 state ends =>
      right
      have passes : source.BasePasses line := by
        rw [BasePasses, Option.isSome_iff_ne_none]
        intro refused
        rw [fullEdidLoop, if_pos (show 0 < edidBlkSize / edidBlkSize by decide)] at ends
        simp only [if_true] at ends
        rw [refused] at ends
        cases ends
      have starts : source.Keeps 0 ⟨pool.allocate.1, [], edidBlkSize, 0, pool.allocate.2⟩ :=
        ⟨rfl, rfl, Nat.zero_le _, nofun⟩
      exact starts.loop (served passes) Nat.le.refl ends

end EdidSource

end Cx4Kernel.Cbios
