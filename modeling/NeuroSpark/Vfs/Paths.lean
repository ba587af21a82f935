import NeuroSpark.Vfs.Backends

/-!
# Paths on their way to the backends

Every path operation looks up the mount of its path with `resolve_mount`, which also gives the path
relative to the mount, and calls the backend of the mount. Nine of them hand over the relative path.
`vfs_link`, `vfs_symlink` and `vfs_readlink` compute it as well and hand over the path they were
given.
-/

namespace NeuroSpark

variable {β σ : Type}

/-- A call of a path operation, of the VFS or of a backend. -/
inductive VfsPathCall where
  | openFile (path : CString) (flags : UInt32)
  | stat (path : CString)
  | delete (path : CString)
  | rename (oldPath newPath : CString)
  | mkdir (path : CString) (mode : Int)
  | rmdir (path : CString)
  | truncate (path : CString) (size : Nat)
  | chmod (path : CString) (mode : Int)
  | chown (path : CString) (uid gid : Int)
  | link (oldPath newPath : CString)
  | symlink (target linkPath : CString)
  | readlink (linkPath : CString) (maxLen : Nat)
  deriving DecidableEq

namespace VfsPathCall

/-- The paths of a call that name files; the target of a symbolic link is text. -/
def paths : VfsPathCall → List CString
  | .openFile path _ | .stat path | .delete path | .mkdir path _ | .rmdir path | .truncate path _
  | .chmod path _ | .chown path _ _ | .symlink _ path | .readlink path _ => [path]
  | .rename oldPath newPath | .link oldPath newPath => [oldPath, newPath]

/-- The call with each of its paths replaced. -/
def translate (f : CString → CString) : VfsPathCall → VfsPathCall
  | .openFile path flags => .openFile (f path) flags
  | .stat path => .stat (f path)
  | .delete path => .delete (f path)
  | .rename oldPath newPath => .rename (f oldPath) (f newPath)
  | .mkdir path mode => .mkdir (f path) mode
  | .rmdir path => .rmdir (f path)
  | .truncate path size => .truncate (f path) size
  | .chmod path mode => .chmod (f path) mode
  | .chown path uid gid => .chown (f path) uid gid
  | .link oldPath newPath => .link (f oldPath) (f newPath)
  | .symlink target linkPath => .symlink target (f linkPath)
  | .readlink linkPath maxLen => .readlink (f linkPath) maxLen

/-- The three operations on links. -/
def OnLinks : VfsPathCall → Prop
  | .link _ _ | .symlink _ _ | .readlink _ _ => True
  | _ => False

end VfsPathCall

section

variable [DecidableEq β] (s : Vfs β σ)

/-- The backend of a path, called with the relative path. -/
def handOver (path : CString) (call : CString → VfsPathCall) : Except VfsError (β × VfsPathCall) :=
  match resolveMount s path with
  | none => .error .notFound
  | some (b, relPath) => .ok (b, call relPath)

/-- The call `vfs_open` makes before it allocates descriptors. -/
def vfsOpenCall (path : CString) (flags : UInt32) : Except VfsError (β × VfsPathCall) :=
  if path = [] then .error .invalidArg else handOver s path (.openFile · flags)

def vfsStat (path : CString) : Except VfsError (β × VfsPathCall) := handOver s path .stat

def vfsDelete (path : CString) : Except VfsError (β × VfsPathCall) :=
  if path = [] then .error .invalidArg else handOver s path .delete

def vfsRename (oldPath newPath : CString) : Except VfsError (β × VfsPathCall) :=
  match resolveMount s oldPath, resolveMount s newPath with
  | some (opsOld, relOld), some (opsNew, relNew) =>
    if opsOld ≠ opsNew then .error .perm else .ok (opsOld, .rename relOld relNew)
  | _, _ => .error .notFound

def vfsMkdir (path : CString) (mode : Int) : Except VfsError (β × VfsPathCall) :=
  handOver s path (.mkdir · mode)

def vfsRmdir (path : CString) : Except VfsError (β × VfsPathCall) := handOver s path .rmdir

def vfsTruncate (path : CString) (size : Nat) : Except VfsError (β × VfsPathCall) :=
  handOver s path (.truncate · size)

def vfsChmod (path : CString) (mode : Int) : Except VfsError (β × VfsPathCall) :=
  handOver s path (.chmod · mode)

def vfsChown (path : CString) (uid gid : Int) : Except VfsError (β × VfsPathCall) :=
  handOver s path (.chown · uid gid)

/-- The relative path is not used. -/
def vfsLink (oldPath newPath : CString) : Except VfsError (β × VfsPathCall) :=
  handOver s newPath fun _ => .link oldPath newPath

/-- The relative path is not used. -/
def vfsSymlink (target linkPath : CString) : Except VfsError (β × VfsPathCall) :=
  handOver s linkPath fun _ => .symlink target linkPath

/-- The relative path is not used. -/
def vfsReadlink (linkPath : CString) (maxLen : Nat) : Except VfsError (β × VfsPathCall) :=
  handOver s linkPath fun _ => .readlink linkPath maxLen

/-- The backend that a call of the VFS reaches, and the call it makes there. -/
def vfsPathCall : VfsPathCall → Except VfsError (β × VfsPathCall)
  | .openFile path flags => vfsOpenCall s path flags
  | .stat path => vfsStat s path
  | .delete path => vfsDelete s path
  | .rename oldPath newPath => vfsRename s oldPath newPath
  | .mkdir path mode => vfsMkdir s path mode
  | .rmdir path => vfsRmdir s path
  | .truncate path size => vfsTruncate s path size
  | .chmod path mode => vfsChmod s path mode
  | .chown path uid gid => vfsChown s path uid gid
  | .link oldPath newPath => vfsLink s oldPath newPath
  | .symlink target linkPath => vfsSymlink s target linkPath
  | .readlink linkPath maxLen => vfsReadlink s linkPath maxLen

end

/-! ### Mount tables -/

inductive MountOp (β : Type) where
  | mount (mountPath : CString) (b : β)
  | umount (mountPath : CString)

def mountStep (s : Vfs β σ) : MountOp β → Vfs β σ × VfsResult
  | .mount mountPath b => vfsMount s mountPath b
  | .umount mountPath => vfsUmount s mountPath

/-- The mount table is one that `vfs_init`, mounts and unmounts lead to. -/
def Vfs.MountsReachable (s : Vfs β σ) : Prop :=
  ∃ (s₀ : Vfs β σ) (initFiles : σ → σ) (root : β) (os : List (MountOp β)),
    s.mounts = (Machine.run mountStep (vfsInit s₀ initFiles root) os).mounts

/-- A mount in use has a path that begins with a slash, its length, and a backend. -/
def VfsMount.Valid (m : VfsMount β) : Prop :=
  m.used = true → m.mountPath.head? = some slash ∧ m.mountLen = m.mountPath.length ∧ m.ops ≠ none

section

variable {s : Vfs β σ}

lemma setMount_mounts_of_ne (s : Vfs β σ) {i j : Fin 8} (m : VfsMount β) (h : j ≠ i) :
    (s.setMount i m).mounts j = s.mounts j := Function.update_of_ne h _ _

lemma setMount_mounts_same (s : Vfs β σ) (i : Fin 8) (m : VfsMount β) :
    (s.setMount i m).mounts i = m := Function.update_self _ _ _

lemma setMount_forall {q : Fin 8 → VfsMount β → Prop} {i : Fin 8} {m : VfsMount β}
    (h : ∀ j, j ≠ i → q j (s.mounts j)) (hm : q i m) (j : Fin 8) :
    q j ((s.setMount i m).mounts j) := by
  by_cases hj : j = i
  · rwa [hj, setMount_mounts_same]
  · rw [setMount_mounts_of_ne s m hj]
    exact h j hj

/-- No mount in use has the path `p`. -/
def Vfs.NotMounted (s : Vfs β σ) (p : CString) : Prop :=
  ∀ i, (s.mounts i).used = true → (s.mounts i).mountPath ≠ p

lemma find?_finRange_first {n : Nat} {q : Fin n → Bool} {i : Fin n}
    (h : (List.finRange n).find? q = some i) : q i = true ∧ ∀ j, j < i → q j = false := by
  obtain ⟨hi, before, rest, hsplit, hbefore⟩ := List.find?_eq_some_iff_append.mp h
  refine ⟨hi, fun j hj => ?_⟩
  have hmem : j ∈ before ++ i :: rest := hsplit ▸ List.mem_finRange j
  have hsorted : (before ++ i :: rest).Pairwise (· < ·) := hsplit ▸ List.pairwise_lt_finRange n
  rcases List.mem_append.mp hmem with hj' | hj'
  · simpa using hbefore j hj'
  · rcases List.mem_cons.mp hj' with rfl | hj'
    · exact absurd hj (lt_irrefl j)
    · have hij := List.rel_of_pairwise_cons (List.pairwise_append.mp hsorted).2.1 hj'
      exact absurd (hj.trans hij) (lt_irrefl j)

/-- The mount that a mount of `p` writes: the first one with this path, or else the first free one.
-/
def Vfs.mountSlot (s : Vfs β σ) (p : CString) : Option (Fin 8) :=
  ((List.finRange 8).find? fun i => (s.mounts i).used && (s.mounts i).mountPath == p).or
    ((List.finRange 8).find? fun i => !(s.mounts i).used)

/-- What a mount does: it gives the first mount at its path another backend, takes the first free
one, or fails and does nothing. -/
lemma vfsMount_cases (s : Vfs β σ) (p : CString) (b : β) :
    (∃ i, vfsMount s p b = (s.setMount i { s.mounts i with ops := some b }, .ok 0) ∧
      s.mountSlot p = some i ∧ (s.mounts i).used = true ∧ (s.mounts i).mountPath = p ∧
      ∀ j, j < i → (s.mounts j).used = true → (s.mounts j).mountPath ≠ p) ∨
    (∃ i, vfsMount s p b = (s.setMount i
        ⟨true, p.take mountPathMax, (p.take mountPathMax).length, some b⟩, .ok 0) ∧
      s.mountSlot p = some i ∧ (s.mounts i).used = false ∧
      (∀ j, j < i → (s.mounts j).used = true) ∧ s.NotMounted p ∧ p.head? = some slash) ∨
    (vfsMount s p b).1 = s ∧ (vfsMount s p b).2 ≠ .ok 0 ∧
      (p.head? = some slash → ∀ i, (s.mounts i).used = true) := by
  unfold vfsMount Vfs.mountSlot
  split_ifs with habs
  · exact Or.inr (Or.inr ⟨rfl, by simp, fun h => absurd h habs⟩)
  split
  · rename_i i hfound
    obtain ⟨hi, hfirst⟩ := find?_finRange_first hfound
    simp only [Bool.and_eq_true, beq_iff_eq] at hi
    refine Or.inl ⟨i, rfl, by rw [hfound]; rfl, hi.1, hi.2, fun j hj hused heq => ?_⟩
    have hno := hfirst j hj
    simp [hused, heq] at hno
  · rename_i hfound
    have hnew : s.NotMounted p := by
      rw [List.find?_eq_none] at hfound
      intro i hused heq
      exact hfound i (List.mem_finRange i) (by simp [hused, heq])
    split
    · rename_i i hfree
      obtain ⟨hi, hfirst⟩ := find?_finRange_first hfree
      exact Or.inr (Or.inl ⟨i, rfl, by rw [hfound]; exact hfree, by simpa using hi,
        fun j hj => by simpa using hfirst j hj, hnew, not_not.mp habs⟩)
    · rename_i hfull
      exact Or.inr (Or.inr ⟨rfl, by simp, fun _ i => by simpa using List.find?_eq_none.mp hfull i⟩)

lemma vfsUmount_cases (s : Vfs β σ) (p : CString) :
    (∃ i, vfsUmount s p = (s.setMount i ⟨false, [], 0, none⟩, .ok 0) ∧ p ≠ [slash] ∧
      (s.mounts i).used = true ∧ (s.mounts i).mountPath = p ∧
      ∀ j, j < i → (s.mounts j).used = true → (s.mounts j).mountPath ≠ p) ∨
    (vfsUmount s p).1 = s ∧ (vfsUmount s p).2 ≠ .ok 0 ∧
      (p.head? = some slash → p ≠ [slash] → s.NotMounted p) := by
  unfold vfsUmount
  split_ifs with habs hroot
  · exact Or.inr ⟨rfl, by simp, fun h => absurd h habs⟩
  · exact Or.inr ⟨rfl, by simp, fun _ h => absurd hroot h⟩
  split
  · rename_i i hfound
    obtain ⟨hi, hfirst⟩ := find?_finRange_first hfound
    simp only [Bool.and_eq_true, beq_iff_eq] at hi
    refine Or.inl ⟨i, rfl, hroot, hi.1, hi.2, fun j hj hused heq => ?_⟩
    have hno := hfirst j hj
    simp [hused, heq] at hno
  · rename_i hfound
    rw [List.find?_eq_none] at hfound
    refine Or.inr ⟨rfl, by simp, fun _ _ i hused heq => ?_⟩
    exact hfound i (List.mem_finRange i) (by simp [hused, heq])

lemma mountStep_valid (hs : ∀ i, (s.mounts i).Valid) (o : MountOp β) (i : Fin 8) :
    ((mountStep s o).1.mounts i).Valid := by
  cases o with
  | mount p b =>
    simp only [mountStep]
    rcases vfsMount_cases s p b with ⟨j, hrun, -, hused, -⟩ | ⟨j, hrun, -, -, -, -, habs⟩ | ⟨hrun, -⟩
    · rw [hrun]
      refine setMount_forall (q := fun _ m => m.Valid) (fun k _ => hs k) (fun _ => ?_) i
      exact ⟨(hs j hused).1, (hs j hused).2.1, by simp⟩
    · rw [hrun]
      refine setMount_forall (q := fun _ m => m.Valid) (fun k _ => hs k) (fun _ => ?_) i
      exact ⟨by rwa [List.head?_take, if_neg (by decide)], rfl, by simp⟩
    · rw [hrun]
      exact hs i
  | umount p =>
    simp only [mountStep]
    rcases vfsUmount_cases s p with ⟨j, hrun, -⟩ | ⟨hrun, -⟩
    · rw [hrun]
      exact setMount_forall (q := fun _ m => m.Valid) (fun k _ => hs k) (fun h => by cases h) i
    · rw [hrun]
      exact hs i

def VfsMount.IsRoot (m : VfsMount β) : Prop := m.used = true ∧ m.mountPath = [slash]

/-- Mount 0 is the root, and no other mount is. -/
def Vfs.RootFirst (s : Vfs β σ) : Prop := ∀ i, (s.mounts i).IsRoot ↔ i = 0

lemma take_mountPathMax_eq {p q : CString} (hq : q.length < mountPathMax)
    (h : p.take mountPathMax = q) : p = q := by
  rw [← h, List.length_take] at hq
  rw [← h, List.take_of_length_le (by omega)]

lemma mountStep_rootFirst (hs : s.RootFirst) (o : MountOp β) : (mountStep s o).1.RootFirst := by
  have hset : ∀ (j : Fin 8) (m : VfsMount β), (m.IsRoot ↔ j = 0) → (s.setMount j m).RootFirst :=
    fun j m hm => setMount_forall (q := fun i m => m.IsRoot ↔ i = 0) (fun k _ => hs k) hm
  cases o with
  | mount p b =>
    simp only [mountStep]
    rcases vfsMount_cases s p b with ⟨j, hrun, -⟩ | ⟨j, hrun, -, hj, -, hnew, -⟩ | ⟨hrun, -⟩
    · rw [hrun]
      exact hset j _ (hs j)
    · rw [hrun]
      refine hset j _ (iff_of_false (fun h => ?_) fun hzero => ?_)
      · have hroot := (hs 0).2 rfl
        exact hnew 0 hroot.1 (hroot.2.trans (take_mountPathMax_eq (by decide) h.2).symm)
      · rw [((hs j).2 hzero).1] at hj
        cases hj
    · rwa [hrun]
  | umount p =>
    simp only [mountStep]
    rcases vfsUmount_cases s p with ⟨j, hrun, hne, -, hpath, -⟩ | ⟨hrun, -⟩
    · rw [hrun]
      refine hset j _ (iff_of_false (fun h => by cases h.1) fun hzero => ?_)
      exact hne (hpath.symm.trans ((hs j).2 hzero).2)
    · rwa [hrun]

lemma Vfs.MountsReachable.valid (hs : s.MountsReachable) (i : Fin 8) : (s.mounts i).Valid := by
  obtain ⟨s₀, initFiles, root, os, hmounts⟩ := hs
  rw [hmounts]
  exact Machine.run_invariant' (I := fun s : Vfs β σ => ∀ i, (s.mounts i).Valid)
    (fun s o hs => mountStep_valid hs o)
    (mountStep_valid (s := s₀.reset initFiles) (fun i h => by cases h) (.mount [slash] root)) os i

lemma Vfs.MountsReachable.root (hs : s.MountsReachable) : s.RootFirst := by
  obtain ⟨s₀, initFiles, root, os, hmounts⟩ := hs
  have hrun : (Machine.run mountStep (vfsInit s₀ initFiles root) os).RootFirst := by
    refine Machine.run_invariant' (I := Vfs.RootFirst) (fun s o hs => mountStep_rootFirst hs o) ?_ os
    refine Fin.cases ?_ fun k => ?_
    · simp [vfsInit, vfsMount, Vfs.reset, Vfs.setMount, List.finRange_succ, mountPathMax,
        VfsMount.IsRoot]
    · simp [vfsInit, vfsMount, Vfs.reset, Vfs.setMount, List.finRange_succ, mountPathMax,
        VfsMount.IsRoot, Fin.succ_ne_zero]
  intro i
  rw [hmounts]
  exact hrun i

end

variable {s : Vfs β σ} {path : CString} {i : Fin 8}

/-! ### The mount of a path -/

/-- The path relative to its mount. -/
def Vfs.relPath (s : Vfs β σ) (path : CString) : CString :=
  ((resolveMount s path).map Prod.snd).getD path

/-- One round of the loop in `resolve_mount`. -/
def bestMountStep (s : Vfs β σ) (path : CString) (best : Option (Fin 8)) (i : Fin 8) :
    Option (Fin 8) :=
  let m := s.mounts i
  if !m.used then best
  else if m.mountPath = [slash] then best.or (some i)
  else if m.covers path then
    match best with
    | none => some i
    | some j => if m.mountLen > (s.mounts j).mountLen then some i else best
  else best

lemma bestMount_eq (s : Vfs β σ) (path : CString) :
    bestMount s path = (List.finRange 8).foldl (bestMountStep s path) none := rfl

/-- The mount is in use, and is the root or a prefix of the path. -/
def Vfs.Matches (s : Vfs β σ) (path : CString) (i : Fin 8) : Prop :=
  (s.mounts i).used = true ∧
    ((s.mounts i).mountPath = [slash] ∨ (s.mounts i).covers path = true)

lemma bestMountStep_cases (s : Vfs β σ) (path : CString) (best : Option (Fin 8)) (i : Fin 8) :
    bestMountStep s path best i = best ∧ (best ≠ none ∨ ¬ s.Matches path i) ∨
      bestMountStep s path best i = some i ∧ s.Matches path i := by
  unfold bestMountStep Vfs.Matches
  cases best <;> grind

lemma bestMount_matches (h : bestMount s path = some i) : s.Matches path i := by
  have hfold : ∀ (l : List (Fin 8)) (best : Option (Fin 8)), (∀ j ∈ best, s.Matches path j) →
      ∀ j ∈ l.foldl (bestMountStep s path) best, s.Matches path j := by
    intro l
    induction l with
    | nil => exact fun best hbest => hbest
    | cons a l ih =>
      intro best hbest
      refine ih _ fun j hj => ?_
      rcases bestMountStep_cases s path best a with ⟨hstep, -⟩ | ⟨hstep, ha⟩
      · exact hbest j (hstep ▸ hj)
      · rw [hstep, Option.mem_some] at hj
        exact hj ▸ ha
  exact hfold _ none (by simp) i h

lemma bestMount_isSome (hi : s.Matches path i) : (bestMount s path).isSome := by
  have hfold : ∀ (l : List (Fin 8)) (best : Option (Fin 8)), best ≠ none ∨ i ∈ l →
      l.foldl (bestMountStep s path) best ≠ none := by
    intro l
    induction l with
    | nil => simp
    | cons a l ih =>
      intro best h
      refine ih _ ?_
      rcases bestMountStep_cases s path best a with ⟨hstep, hkeep⟩ | ⟨hstep, -⟩
      · grind
      · simp [hstep]
  rw [Option.isSome_iff_ne_none]
  exact hfold _ none (Or.inr (List.mem_finRange i))

lemma Vfs.MountsReachable.resolves (hs : s.MountsReachable) (path : CString) :
    ∃ i b, bestMount s path = some i ∧ (s.mounts i).ops = some b ∧
      resolveMount s path = some (b, s.relPath path) := by
  have hroot := (hs.root 0).2 rfl
  have hmatches : s.Matches path 0 := ⟨hroot.1, Or.inl hroot.2⟩
  obtain ⟨i, hi⟩ := Option.isSome_iff_exists.1 (bestMount_isSome hmatches)
  obtain ⟨-, -, hops⟩ := hs.valid i (bestMount_matches hi).1
  obtain ⟨b, hb⟩ := Option.ne_none_iff_exists'.1 hops
  exact ⟨i, b, hi, hb, by simp [Vfs.relPath, resolveMount, hi, hb]⟩

lemma Vfs.MountsReachable.relPath_ne (hs : s.MountsReachable) (hi : bestMount s path = some i)
    (hroot : (s.mounts i).mountPath ≠ [slash]) :
    s.relPath path ≠ path := by
  obtain ⟨hused, hor⟩ := bestMount_matches hi
  obtain ⟨hhead, hlen, hops⟩ := hs.valid i hused
  obtain ⟨b, hb⟩ := Option.ne_none_iff_exists'.1 hops
  have hpre : (s.mounts i).mountPath <+: path := by
    have hcovers := hor.resolve_left hroot
    simp only [VfsMount.covers, Bool.and_eq_true] at hcovers
    exact List.isPrefixOf_iff_prefix.1 hcovers.1
  have hpos : 0 < (s.mounts i).mountPath.length := by
    rw [List.length_pos_iff]
    rintro hnil
    simp [hnil] at hhead
  have hle := hpre.length_le
  simp only [Vfs.relPath, resolveMount, hi, hb, hroot, hlen, Option.bind_some, Option.map_some,
    Option.getD_some, if_false]
  split_ifs with hwhole
  · rw [hpre.eq_of_length hwhole.symm] at hroot
    exact Ne.symm hroot
  · intro heq
    have := congrArg List.length heq
    rw [List.length_drop] at this
    omega

/-! ### What reaches the backend -/

section

variable [DecidableEq β] {s : Vfs β σ} {c : VfsPathCall}

lemma vfsPathCall_translate (hs : s.MountsReachable) (hc : ¬ c.OnLinks) {b : β} {c' : VfsPathCall}
    (h : vfsPathCall s c = .ok (b, c')) : c' = c.translate s.relPath := by
  cases c with
  | openFile path flags | delete path =>
    obtain ⟨-, b', -, -, hm⟩ := hs.resolves path
    simp only [vfsPathCall, vfsOpenCall, vfsDelete, handOver, hm] at h
    split_ifs at h
    cases h
    rfl
  | stat path | mkdir path mode | rmdir path | truncate path size | chmod path mode
  | chown path uid gid =>
    obtain ⟨-, b', -, -, hm⟩ := hs.resolves path
    simp only [vfsPathCall, vfsStat, vfsMkdir, vfsRmdir, vfsTruncate, vfsChmod, vfsChown, handOver,
      hm] at h
    cases h
    rfl
  | rename oldPath newPath =>
    obtain ⟨-, bOld, -, -, hold⟩ := hs.resolves oldPath
    obtain ⟨-, bNew, -, -, hnew⟩ := hs.resolves newPath
    simp only [vfsPathCall, vfsRename, hold, hnew] at h
    split_ifs at h
    cases h
    rfl
  | link oldPath newPath | symlink target linkPath | readlink linkPath maxLen =>
    exact absurd trivial hc

lemma vfsPathCall_of_onLinks (hs : s.MountsReachable) (hc : c.OnLinks) :
    ∃ b, vfsPathCall s c = .ok (b, c) := by
  cases c with
  | link oldPath path | symlink target path | readlink path maxLen =>
    obtain ⟨-, b, -, -, hm⟩ := hs.resolves path
    exact ⟨b, by simp [vfsPathCall, vfsLink, vfsSymlink, vfsReadlink, handOver, hm]⟩
  | _ => exact absurd hc id

lemma VfsPathCall.eq_of_translate_eq {f : CString → CString} (h : c.translate f = c) {p : CString}
    (hp : p ∈ c.paths) : f p = p := by
  cases c <;> simp_all [VfsPathCall.translate, VfsPathCall.paths] <;> grind

lemma vfsPathCall_reaches (hs : s.MountsReachable) {i : Fin 8}
    (hpaths : ∀ p ∈ c.paths, bestMount s p = some i) (hroot : (s.mounts i).mountPath ≠ [slash]) :
    ∃ b c', (s.mounts i).ops = some b ∧ vfsPathCall s c = .ok (b, c') := by
  have hone : ∀ p, bestMount s p = some i →
      p ≠ [] ∧ ∃ b, (s.mounts i).ops = some b ∧ resolveMount s p = some (b, s.relPath p) := by
    intro p hp
    obtain ⟨j, b, hj, hb, hm⟩ := hs.resolves p
    obtain rfl : i = j := by simpa [hp] using hj
    refine ⟨?_, b, hb, hm⟩
    rintro rfl
    obtain ⟨hused, hor⟩ := bestMount_matches hp
    obtain ⟨hhead, -, -⟩ := hs.valid i hused
    have hcovers := hor.resolve_left hroot
    simp only [VfsMount.covers, Bool.and_eq_true, List.isPrefixOf_iff_prefix,
      List.prefix_nil] at hcovers
    simp [hcovers.1] at hhead
  cases c with
  | rename oldPath newPath =>
    obtain ⟨-, bOld, hbOld, hold⟩ := hone oldPath (hpaths _ (by simp [VfsPathCall.paths]))
    obtain ⟨-, bNew, hbNew, hnew⟩ := hone newPath (hpaths _ (by simp [VfsPathCall.paths]))
    obtain rfl : bOld = bNew := by simpa [hbOld] using hbNew
    refine ⟨bOld, .rename (s.relPath oldPath) (s.relPath newPath), hbOld, ?_⟩
    simp [vfsPathCall, vfsRename, hold, hnew]
  | openFile path _ | stat path | delete path | mkdir path _ | rmdir path | truncate path _
  | chmod path _ | chown path _ _ | link _ path | symlink _ path | readlink path _ =>
    obtain ⟨hne, b, hb, hm⟩ := hone path (hpaths _ (by simp [VfsPathCall.paths]))
    exact ⟨b, _, hb, by
      simp only [vfsPathCall, vfsOpenCall, vfsStat, vfsDelete, vfsMkdir, vfsRmdir, vfsTruncate,
        vfsChmod, vfsChown, vfsLink, vfsSymlink, vfsReadlink, handOver, hne, hm, if_false]
      rfl⟩

/-- A call with a path under a mount other than `/` hands over relative paths exactly when it is not
one on links, and it does reach the backend when the mount has all its paths. -/
theorem vfsPathCall_relative_iff (hs : s.MountsReachable) {p : CString} (hp : p ∈ c.paths)
    {i : Fin 8} (hi : bestMount s p = some i) (hroot : (s.mounts i).mountPath ≠ [slash]) :
    ((∀ b c', vfsPathCall s c = .ok (b, c') → c' = c.translate s.relPath) ↔ ¬ c.OnLinks) ∧
      ((∀ q ∈ c.paths, bestMount s q = some i) →
        ∃ b c', (s.mounts i).ops = some b ∧ vfsPathCall s c = .ok (b, c')) := by
  refine ⟨⟨fun hall hc => ?_, fun hc b c' => vfsPathCall_translate hs hc⟩,
    fun hpaths => vfsPathCall_reaches hs hpaths hroot⟩
  obtain ⟨b, hb⟩ := vfsPathCall_of_onLinks hs hc
  exact hs.relPath_ne hi hroot (VfsPathCall.eq_of_translate_eq (hall b c hb).symm hp)

end

/-- TFS at `/` and ext2 at `/e`. -/
def ext2AtE : Vfs Backend BackendState :=
  Machine.run mountStep (vfsInit (Vfs.blank Backend) BackendState.init .tfs)
    [.mount [slash, 101] .ext2]

lemma ext2AtE_reachable : ext2AtE.MountsReachable :=
  ⟨Vfs.blank Backend, BackendState.init, .tfs, [.mount [slash, 101] .ext2], rfl⟩

/-- A path below a mount. -/
theorem vfsPathCall_relative_stat :
    ((∀ b c', vfsPathCall ext2AtE (.stat [slash, 101, slash, 108]) = .ok (b, c') →
        c' = VfsPathCall.translate ext2AtE.relPath (.stat [slash, 101, slash, 108])) ↔
      ¬ (VfsPathCall.stat [slash, 101, slash, 108]).OnLinks) ∧
    ((∀ q ∈ (VfsPathCall.stat [slash, 101, slash, 108]).paths, bestMount ext2AtE q = some 1) →
      ∃ b c', (ext2AtE.mounts 1).ops = some b ∧
        vfsPathCall ext2AtE (.stat [slash, 101, slash, 108]) = .ok (b, c')) :=
  vfsPathCall_relative_iff ext2AtE_reachable (List.mem_singleton_self _) (by decide)
    (by decide)

/-- `vfs_symlink` gives ext2 the name `/e/l`, `vfs_stat` of the same path looks for `/l`. -/
theorem vfsSymlink_keeps_mount :
    ext2AtE.MountsReachable ∧
      bestMount ext2AtE [slash, 101, slash, 108] = some 1 ∧
      (ext2AtE.mounts 1).mountPath = [slash, 101] ∧
      ext2AtE.relPath [slash, 101, slash, 108] = [slash, 108] ∧
      vfsSymlink ext2AtE [116] [slash, 101, slash, 108] =
        .ok (.ext2, .symlink [116] [slash, 101, slash, 108]) ∧
      vfsStat ext2AtE [slash, 101, slash, 108] = .ok (.ext2, .stat [slash, 108]) :=
  ⟨ext2AtE_reachable, by decide, by decide, by decide, by rfl, by rfl⟩

end NeuroSpark
