import NeuroSpark.Ext2.Insertion
import NeuroSpark.Ext2.Removal

/-!
# Directories as maps

Insertions that find a place where they harm nothing, and removals of any names, make a directory a
map from names to inodes.
-/

namespace NeuroSpark

open Ext2View

variable {L : Ext2Layout} {d : Nat} {s : Ext2}

inductive DirOp where
  | add (name : CString) (n fileType : Nat)
  | remove (name : CString)

def dirStep (d : Nat) (s : Ext2) : DirOp → Ext2 × Bool
  | .add name n fileType => dirAddEntry s d name n fileType
  | .remove name => dirRemoveEntry s d name

/-- What the operations mean for a map. -/
def mapStep (f : CString → Option Nat) : DirOp → (CString → Option Nat) × Bool
  | .add name n _ => (Function.update f name (some n), true)
  | .remove name => (Function.update f name none, (f name).isSome)

/-- A new name that is inserted in a place where it harms nothing. -/
def Harmless (L : Ext2Layout) (d : Nat) (s : Ext2) : DirOp → Prop
  | .add name n fileType => GoodName name ∧ dirLookup s d name = none ∧ n < 4294967296 ∧
      (dirAddEntry s d name n fileType).2 = true ∧
      Insertable s.mount (s.view L) ((s.view L).inode d) n fileType name
  | .remove _ => True

lemma dirStep_spec (hs : s.HasDirectory L d) {op : DirOp} (hop : Harmless L d s op) :
    (dirStep d s op).1.HasDirectory L d ∧
      dirLookup (dirStep d s op).1 d = (mapStep (dirLookup s d) op).1 ∧
      (dirStep d s op).2 = (mapStep (dirLookup s d) op).2 := by
  cases op with
  | add name n fileType =>
    obtain ⟨hname, habs, hlt, hadd, hins⟩ := hop
    obtain ⟨hiff, hkeeps⟩ := dirAddEntry_entryAdded hs hname habs hlt fileType hadd
    have hadded := hiff.2 hins
    refine ⟨hkeeps hadded, funext fun c => ?_, hadd⟩
    simp only [mapStep, Function.update_apply]
    split_ifs with hc
    · rw [hc]
      exact hadded.found
    · exact hadded.others c hc
  | remove name =>
    obtain ⟨hres, hgone, hothers, hkeeps⟩ :=
      dirRemoveEntry_removes hs.inOrder hs.isDirectory hs.records hs.firstDataBlock name
    refine ⟨hkeeps, funext fun c => ?_, hres⟩
    simp only [mapStep, Function.update_apply]
    split_ifs with hc
    · rw [hc]
      exact hgone
    · exact hothers c hc

lemma dirStep_refines (L : Ext2Layout) (d : Nat) :
    Machine.Refines (Harmless L d) (dirStep d) (fun s => s.HasDirectory L d)
      (fun s => dirLookup s d) mapStep where
  inv _ _ hs hop := (dirStep_spec hs hop).1
  state _ _ hs hop := (dirStep_spec hs hop).2.1
  output _ _ hs hop := (dirStep_spec hs hop).2.2

/-- After any run of such operations the directory finds what the map has, its records are in order,
and all along the operations have returned what they do on the map. -/
theorem directory_is_map (hs : s.HasDirectory L d) {ops : List DirOp}
    (hops : Machine.Runs (Harmless L d) (dirStep d) s ops) :
    (Machine.run (dirStep d) s ops).HasDirectory L d ∧
      dirLookup (Machine.run (dirStep d) s ops) d = Machine.run mapStep (dirLookup s d) ops ∧
      Machine.outputs (dirStep d) s ops = Machine.outputs mapStep (dirLookup s d) ops := by
  have h := dirStep_refines L d
  exact ⟨h.run_inv hs hops, h.run_view hs hops, h.outputs_eq hs hops⟩

/-- The root directory of the sample image gets a name and loses it again. -/
theorem directory_is_map_sample :
    Machine.outputs (dirStep 2) sample [.add [108] 3 1, .remove [108], .remove [108]] =
      Machine.outputs mapStep (dirLookup sample 2) [.add [108] 3 1, .remove [108], .remove [108]] :=
  have hops : Machine.Runs (Harmless sampleLayout 2) (dirStep 2) sample
      [.add [108] 3 1, .remove [108], .remove [108]] :=
    ⟨⟨⟨by decide, by decide, by decide, by decide⟩, by decide, by decide, by decide,
      sample_insertable⟩, trivial, trivial, trivial⟩
  (directory_is_map sample_hasDirectory hops).2.2

end NeuroSpark
