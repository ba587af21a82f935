import Mathlib.Data.Set.Card
import NeuroSpark.Vfs.Ramdisk

/-!
# Independent byte files

What the RAM disk is for: a map from names to byte strings and a table of open files, each with a
name and a position. Nothing of a byte string is there but its bytes, so what a truncation adds is
zero, and no operation reaches a string whose name it does not have.
-/

namespace NeuroSpark

open Function (update update_of_ne)

structure OpenFile where
  name : CString
  pos : Nat
  flags : UInt32

structure ByteFiles where
  contents : CString → Option (List UInt8)
  handles : Nat → Option OpenFile

/-- Put `bytes` at `pos`; the string grows when they reach past its end. -/
def overwrite (c : List UInt8) (pos : Nat) (bytes : List UInt8) : List UInt8 :=
  c.take pos ++ List.replicate (pos - c.length) 0 ++ bytes ++ c.drop (pos + bytes.length)

/-- Cut a string to `size` bytes, or fill it up with zeros. -/
def cutTo (c : List UInt8) (size : Nat) : List UInt8 :=
  c.take size ++ List.replicate (size - c.length) 0

/-- Where a seek leads in a file of `size` bytes. -/
def seekTarget (pos size : Nat) (offset whence : Int) : Int :=
  let target : Int :=
    if whence = vfsSeekSet then Word.i32 offset
    else if whence = vfsSeekCur then Word.i32 (pos + offset)
    else Word.i32 (size + offset)
  min (max target 0) size

namespace ByteFiles

def bytes (a : ByteFiles) (nm : CString) : List UInt8 := (a.contents nm).getD []

/-- There are the files that have contents. -/
def names (a : ByteFiles) : Set CString := {nm | a.contents nm ≠ none}

def setContents (a : ByteFiles) (nm : CString) (c : Option (List UInt8)) : ByteFiles :=
  { a with contents := Function.update a.contents nm c }

def setHandle (a : ByteFiles) (h : Nat) (x : Option OpenFile) : ByteFiles :=
  { a with handles := Function.update a.handles h x }

/-- An open file gets the first free handle. -/
def openName (a : ByteFiles) (nm : CString) (flags : UInt32) : ByteFiles × VfsResult :=
  match (List.range ramdiskMaxHandles).find? fun h => (a.handles h).isNone with
  | none => (a, .error .noSpace)
  | some h => (a.setHandle h (some ⟨nm, 0, flags⟩), .ok h)

noncomputable def openFile (a : ByteFiles) (path : CString) (flags : UInt32) :
    ByteFiles × VfsResult :=
  match ramdiskExtractName path with
  | none => (a, .error .invalidArg)
  | some nm =>
    match a.contents nm with
    | none =>
      if flags &&& vfsOCreat = 0 then (a, .error .notFound)
      else if a.names.ncard < ramdiskMaxFiles then (a.setContents nm (some [])).openName nm flags
      else (a, .error .noSpace)
    | some _ =>
      if flags &&& vfsOTrunc ≠ 0 then (a.setContents nm (some [])).openName nm flags
      else a.openName nm flags

def read (a : ByteFiles) (h size : Nat) : ByteFiles × Except VfsError (List UInt8) :=
  match a.handles h with
  | none => (a, .error .invalidArg)
  | some f =>
    if ¬ ramdiskReadable f.flags then (a, .error .perm)
    else
      let bytes := ((a.bytes f.name).drop f.pos).take size
      (a.setHandle h (some { f with pos := f.pos + bytes.length }), .ok bytes)

def write (a : ByteFiles) (h : Nat) (buf : List UInt8) : ByteFiles × VfsResult :=
  match a.handles h with
  | none => (a, .error .invalidArg)
  | some f =>
    if ¬ ramdiskWritable f.flags then (a, .error .perm)
    else if ramdiskFileCapacity ≤ f.pos then (a, .error .noSpace)
    else
      let bytes := buf.take (ramdiskFileCapacity - f.pos)
      ((a.setContents f.name (some (overwrite (a.bytes f.name) f.pos bytes))).setHandle h
        (some { f with pos := f.pos + bytes.length }), .ok bytes.length)

def close (a : ByteFiles) (h : Nat) : ByteFiles × VfsResult :=
  match a.handles h with
  | none => (a, .error .invalidArg)
  | some _ => (a.setHandle h none, .ok 0)

def lseek (a : ByteFiles) (h : Nat) (offset whence : Int) : ByteFiles × VfsResult :=
  match a.handles h with
  | none => (a, .error .invalidArg)
  | some f =>
    if whence ≠ vfsSeekSet ∧ whence ≠ vfsSeekCur ∧ whence ≠ vfsSeekEnd then
      (a, .error .invalidArg)
    else
      let pos := (seekTarget f.pos (a.bytes f.name).length offset whence).toNat
      (a.setHandle h (some { f with pos := pos }), .ok pos)

open Classical in
/-- A file that is open stays. -/
noncomputable def delete (a : ByteFiles) (path : CString) : ByteFiles × VfsResult :=
  match ramdiskExtractName path with
  | none => (a, .error .invalidArg)
  | some nm =>
    match a.contents nm with
    | none => (a, .error .notFound)
    | some _ =>
      if ∃ h f, a.handles h = some f ∧ f.name = nm then (a, .error .perm)
      else (a.setContents nm none, .ok 0)

/-- The open files follow the name. -/
def rename (a : ByteFiles) (oldPath newPath : CString) : ByteFiles × VfsResult :=
  match ramdiskExtractName oldPath, ramdiskExtractName newPath with
  | some oldName, some newName =>
    match a.contents oldName with
    | none => (a, .error .notFound)
    | some c =>
      if a.contents newName ≠ none ∧ newName ≠ oldName then (a, .error .perm)
      else
        ({ contents := Function.update (Function.update a.contents oldName none) newName (some c)
           handles := fun h => (a.handles h).map fun f =>
             if f.name = oldName then { f with name := newName } else f }, .ok 0)
  | _, _ => (a, .error .invalidArg)

def truncate (a : ByteFiles) (path : CString) (size : Nat) : ByteFiles × VfsResult :=
  match ramdiskExtractName path with
  | none => (a, .error .invalidArg)
  | some nm =>
    match a.contents nm with
    | none => (a, .error .notFound)
    | some c =>
      let size := min size ramdiskFileCapacity
      ({ contents := Function.update a.contents nm (some (cutTo c size))
         handles := fun h => (a.handles h).map fun f =>
           if f.name = nm then { f with pos := min f.pos size } else f }, .ok 0)

def ftruncate (a : ByteFiles) (h size : Nat) : ByteFiles × VfsResult :=
  match a.handles h with
  | none => (a, .error .invalidFd)
  | some f =>
    let size := min size ramdiskFileCapacity
    ((a.setContents f.name (some (cutTo (a.bytes f.name) size))).setHandle h
      (some { f with pos := min f.pos size }), .ok 0)

noncomputable def step (a : ByteFiles) : RamdiskOp → ByteFiles × RamdiskAnswer
  | .openFile path flags => (a.openFile path flags).map id .number
  | .read h size => (a.read h size).map id .bytes
  | .write h buf => (a.write h buf).map id .number
  | .close h => (a.close h).map id .number
  | .lseek h offset whence => (a.lseek h offset whence).map id .number
  | .delete path => (a.delete path).map id .number
  | .rename oldPath newPath => (a.rename oldPath newPath).map id .number
  | .truncate path size => (a.truncate path size).map id .number
  | .ftruncate h size => (a.ftruncate h size).map id .number

/-- No files and no open files. -/
def empty : ByteFiles := ⟨fun _ => none, fun _ => none⟩

/-- The names a call is about. -/
def concerns (a : ByteFiles) : RamdiskOp → Set CString
  | .openFile path _ | .delete path | .truncate path _ => {nm | ramdiskExtractName path = some nm}
  | .rename oldPath newPath =>
    {nm | ramdiskExtractName oldPath = some nm ∨ ramdiskExtractName newPath = some nm}
  | .write h _ | .ftruncate h _ => {nm | ∃ f, a.handles h = some f ∧ f.name = nm}
  | .read _ _ | .close _ | .lseek _ _ _ => ∅

lemma openName_contents (a : ByteFiles) (nm : CString) (flags : UInt32) :
    (a.openName nm flags).1.contents = a.contents := by
  unfold openName
  split <;> rfl

lemma openFile_contents (a : ByteFiles) {path nm : CString} (flags : UInt32)
    (h : ramdiskExtractName path ≠ some nm) :
    (a.openFile path flags).1.contents nm = a.contents nm := by
  unfold openFile
  split
  · rfl
  · rename_i nm' hname
    have hne : nm ≠ nm' := fun hnm => h (hnm ▸ hname)
    have hset : (a.setContents nm' (some [])).contents nm = a.contents nm := update_of_ne hne ..
    split <;> split_ifs <;> simp only [openName_contents, hset]

/-- A call changes no file but those it is about. -/
theorem step_contents (a : ByteFiles) (op : RamdiskOp) {nm : CString} (h : nm ∉ a.concerns op) :
    (a.step op).1.contents nm = a.contents nm := by
  cases op with
  | openFile path flags => exact openFile_contents a flags h
  | read | lseek =>
    simp only [step, Prod.map_fst, id_eq, read, lseek]
    split
    · rfl
    · split_ifs <;> rfl
  | close =>
    simp only [step, Prod.map_fst, id_eq, close]
    split <;> rfl
  | write hd buf =>
    simp only [step, Prod.map_fst, id_eq, write]
    split
    · rfl
    · rename_i f hf
      split_ifs
      · rfl
      · refine update_of_ne ?_ ..
        rintro rfl
        exact h ⟨f, hf, rfl⟩
      · rfl
  | delete path =>
    simp only [step, Prod.map_fst, id_eq, delete]
    split
    · rfl
    · rename_i nm' hname
      split
      · rfl
      · split_ifs
        · rfl
        · refine update_of_ne ?_ ..
          rintro rfl
          exact h hname
  | rename oldPath newPath =>
    simp only [step, Prod.map_fst, id_eq, rename]
    split
    · rename_i oldName newName hold hnew
      split
      · rfl
      · split_ifs
        · rfl
        · have hneNew : nm ≠ newName := by
            rintro rfl
            exact h (Or.inr hnew)
          have hneOld : nm ≠ oldName := by
            rintro rfl
            exact h (Or.inl hold)
          exact (update_of_ne hneNew ..).trans (update_of_ne hneOld ..)
    · rfl
  | truncate path size =>
    simp only [step, Prod.map_fst, id_eq, truncate]
    split
    · rfl
    · rename_i nm' hname
      split
      · rfl
      · refine update_of_ne ?_ ..
        rintro rfl
        exact h hname
  | ftruncate hd size =>
    simp only [step, Prod.map_fst, id_eq, ftruncate]
    split
    · rfl
    · rename_i f hf
      refine update_of_ne ?_ ..
      rintro rfl
      exact h ⟨f, hf, rfl⟩

end ByteFiles

end NeuroSpark
