import NeuroSpark.Ext2.Mkdir
import NeuroSpark.Ext2.Symlinks

/-!
# Files that `ext2_open` creates

A call that creates a file gets an inode and enters it, and gives the inode back when it cannot. A
call that opens a file that is there fails only for want of a handle, and may truncate it before.
-/

namespace NeuroSpark

open Word Ext2View

variable {L : Ext2Layout} {n parent : Nat} {s t w : Ext2} {v v' : Ext2View}
  {path leaf : CString} {flags : UInt32}

lemma Shrunk.refl (v : Ext2View) (n : Nat) : Shrunk v v n :=
  ⟨v.blockUsed, v.inode n, (withInode_self v n).symm, fun _ hp => hp, rfl⟩

lemma ext2HandleAlloc_handles (h : t.handles = s.handles) :
    ext2HandleAlloc t = ext2HandleAlloc s := by
  rw [ext2HandleAlloc, ext2HandleAlloc, h]

lemma ext2OpenInode_fails (hs : s.InOrder L) (hn : (s.view L).Owner n) {e : VfsError}
    (herr : (ext2OpenInode s n flags).2 = .error e) :
    ext2HandleAlloc s = none ∧ (ext2OpenInode s n flags).1.InOrder L ∧
      (ext2OpenInode s n flags).1.stack = s.stack ∧
      Shrunk (s.view L) ((ext2OpenInode s n flags).1.view L) n := by
  have hvalid := inodeUsed_valid hn.1
  have htrunc : ∀ r : Ext2 × Bool,
      r = (if flags &&& vfsOTrunc ≠ 0 then ext2TruncateInode s n 0 else (s, true)) →
      r.2 = true ∧ s.Becomes r.1 L (r.1.view L) ∧ r.1.InOrder L ∧
        Shrunk (s.view L) (r.1.view L) n := by
    rintro r rfl
    split_ifs
    · obtain ⟨hok, hb, hown, hshrunk⟩ := ext2TruncateInode_spec hs.layout hs.owned hn
        (truncatesWell_zero s _)
      exact ⟨hok, hb, hb.inOrder hown, hshrunk⟩
    · exact ⟨rfl, hs.layout.becomes, hs, .refl _ _⟩
  unfold ext2OpenInode at herr ⊢
  rw [readInode_eq hs.layout hvalid] at herr ⊢
  generalize hr : (if flags &&& vfsOTrunc ≠ 0 then ext2TruncateInode s n 0 else (s, true)) = r
    at herr ⊢
  obtain ⟨hok, hb, hio, hshrunk⟩ := htrunc r hr.symm
  have hread := readInode_eq hio.layout (by rw [hb.mount]; exact hvalid)
  simp only [hok, hread, ext2HandleAlloc_handles hb.handles, Option.isNone_some, Bool.not_true,
    Bool.false_eq_true, if_false] at herr ⊢
  cases halloc : ext2HandleAlloc s with
  | none => exact ⟨rfl, hio, hb.stack, hshrunk⟩
  | some h =>
    rw [halloc] at herr
    cases herr

def newFileInode : Ext2Inode := Ext2Inode.fresh (ext2SIfreg ||| 0o644) 0 1 0

lemma newFileInode_isDir : newFileInode.isDir = false := by
  decide

lemma newFileInode_notInline : ¬ newFileInode.InlineSymlink := by
  intro hsym
  exact absurd hsym.1 (by decide)

lemma ext2Create_cases (hs : s.InOrder L) (parent : Nat) (leaf : CString) :
    (allocInode s = (s, none) ∧ ext2Create s parent leaf = (s, .error .noSpace)) ∨
    ∃ n w, (allocInode s).2 = some n ∧ Prepared L n 0 newFileInode s w ∧
      w = (writeInode (allocInode s).1 n newFileInode).1 ∧
      ext2Create s parent leaf =
        if (dirAddEntry w parent leaf n ext2FtRegFile).2 then
          ((dirAddEntry w parent leaf n ext2FtRegFile).1, .ok n)
        else (freeInode (dirAddEntry w parent leaf n ext2FtRegFile).1 n, .error .io) := by
  unfold ext2Create
  rcases allocInode_taken hs.layout with hnone | ⟨n, hsome, hbad, htaken⟩
  · left
    rw [hnone]
    exact ⟨rfl, rfl⟩
  · right
    obtain ⟨hok, hprep⟩ := htaken.prepared hs (i := newFileInode)
      (Or.inr fun k => Ext2Inode.block_fresh _ _ _ _ k)
    refine ⟨n, _, hsome, hprep, rfl, ?_⟩
    dsimp only
    rw [hsome]
    dsimp only
    rw [if_neg hbad, show Ext2Inode.fresh (ext2SIfreg ||| 0o644) 0 1 0 = newFileInode from rfl]
    simp only [hok, Bool.not_true, Bool.false_eq_true, if_false]
    cases (dirAddEntry (writeInode (allocInode s).1 n newFileInode).1 parent leaf n
      ext2FtRegFile).2 <;> rfl

end NeuroSpark
