import NeuroSpark.Vfs.Mounts

/-!
# Mounts and unmounts

A mount takes over its path and what lies below it, touches no other path, and the unmount of its
path undoes it. `vfs_mount` stores only 23 characters of a path while `vfs_umount` compares the
whole one. So a path of 24 characters cannot be unmounted, and one of 23 can be taken over by the
mount of a longer path that comes before it in the table.
-/

namespace NeuroSpark

variable {β σ : Type} {s t : Vfs β σ} {p path : CString} {b : β}

/-! ### The first of the longest mounts -/

/-- What the loop of `resolve_mount` has found is longer than every match before it. -/
def FirstSoFar (s : Vfs β σ) (path : CString) (seen : List (Fin 8))
    (best : Option (Fin 8)) : Prop :=
  ∀ j ∈ best, ∀ i ∈ seen, i < j → s.Matches path i →
    (s.mounts i).mountPath.length < (s.mounts j).mountPath.length

lemma bestMountStep_longer {i j : Fin 8} (hij : i ≠ j)
    (h : bestMountStep s path (some j) i = some i) :
    (s.mounts j).mountLen < (s.mounts i).mountLen := by
  unfold bestMountStep at h
  dsimp only at h
  split_ifs at h with _ _ _ hlonger
  · exact absurd (Option.some.inj h).symm hij
  · exact absurd (Option.some.inj h).symm hij
  · exact hlonger
  · exact absurd (Option.some.inj h).symm hij
  · exact absurd (Option.some.inj h).symm hij

section

variable (hvalid : ∀ i, (s.mounts i).Valid)
include hvalid

lemma FirstSoFar.step {seen : List (Fin 8)} {best : Option (Fin 8)} {i : Fin 8}
    (hbest : ∀ j ∈ best, j < i) (hlong : LongestSoFar s path seen best)
    (h : FirstSoFar s path seen best) :
    FirstSoFar s path (seen ++ [i]) (bestMountStep s path best i) := by
  rcases bestMountStep_cases s path best i with ⟨hstep, -⟩ | ⟨hstep, hmatch⟩
  · rw [hstep]
    intro j hj k hk hkj
    rcases List.mem_append.mp hk with hk | hk
    · exact h j hj k hk hkj
    · rw [List.mem_singleton.mp hk] at hkj
      exact absurd (hkj.trans (hbest j hj)) (lt_irrefl i)
  · intro j hj k hk hkj hkmatch
    rw [hstep, Option.mem_some] at hj
    subst hj
    rcases List.mem_append.mp hk with hk | hk
    · cases best with
      | none => exact absurd hkmatch (hlong k hk)
      | some j =>
        have hlt := bestMountStep_longer (hbest j rfl).ne' hstep
        rw [(hvalid j hlong.1.1).2.1, (hvalid i hmatch.1).2.1] at hlt
        exact (hlong.2 k hk hkmatch).trans_lt hlt
    · rw [List.mem_singleton.mp hk] at hkj
      exact absurd hkj (lt_irrefl i)

lemma bestMount_first {i j : Fin 8} (hi : bestMount s path = some i) (hj : s.Matches path j)
    (hji : j < i) : (s.mounts j).mountPath.length < (s.mounts i).mountPath.length := by
  have hfold : ∀ (rest seen : List (Fin 8)) (best : Option (Fin 8)),
      (seen ++ rest).Pairwise (· < ·) → (∀ k ∈ best, k ∈ seen) →
      LongestSoFar s path seen best → FirstSoFar s path seen best →
        FirstSoFar s path (seen ++ rest) (rest.foldl (bestMountStep s path) best) := by
    intro rest
    induction rest with
    | nil =>
      intro seen best _ _ _ h
      rwa [List.append_nil]
    | cons k rest ih =>
      intro seen best hsorted hbest hlong h
      have hlt : ∀ l ∈ best, l < k := fun l hl =>
        (List.pairwise_append.mp hsorted).2.2 l (hbest l hl) k List.mem_cons_self
      rw [List.append_cons] at hsorted ⊢
      refine ih _ _ hsorted (fun l hl => ?_) (hlong.step hvalid k) (h.step hvalid hlt hlong)
      rcases bestMountStep_cases s path best k with ⟨hstep, -⟩ | ⟨hstep, -⟩
      · rw [hstep] at hl
        exact List.mem_append_left _ (hbest l hl)
      · rw [hstep, Option.mem_some] at hl
        rw [← hl]
        exact List.mem_append_right _ (List.mem_singleton_self k)
  have h := hfold (List.finRange 8) [] none (List.pairwise_lt_finRange 8)
    (fun k hk => by cases hk) (fun k hk => by cases hk) (fun k hk => by cases hk)
  rw [← bestMount_eq, hi] at h
  exact h i rfl j (List.mem_finRange j) hji hj

end

variable {i : Fin 8}

/-! ### Changes of one mount -/

lemma resolveMount_congr (h : ∀ j, j ≠ i → s.mounts j = t.mounts j) (hs : ¬ s.Matches path i)
    (ht : ¬ t.Matches path i) :
    resolveMount s path = resolveMount t path := by
  have hsame : ∀ best, best ≠ some i → ∀ j,
      bestMountStep s path best j = bestMountStep t path best j := by
    intro best hbest j
    by_cases hji : j = i
    · subst hji
      have hskip := (bestMountStep_cases s path best j).resolve_right fun hm => hs hm.2
      have hskip' := (bestMountStep_cases t path best j).resolve_right fun hm => ht hm.2
      rw [hskip.1, hskip'.1]
    · cases best with
      | none => simp only [bestMountStep, h j hji]
      | some k =>
        have hki : k ≠ i := fun hki => hbest (congrArg some hki)
        simp only [bestMountStep, h j hji, h k hki]
  have hne : ∀ best, best ≠ some i → ∀ j, bestMountStep s path best j ≠ some i := by
    intro best hbest j
    rcases bestMountStep_cases s path best j with ⟨hstep, -⟩ | ⟨hstep, hmatch⟩
    · rwa [hstep]
    · rw [hstep]
      intro hji
      exact hs (Option.some.inj hji ▸ hmatch)
  have hfold : ∀ (l : List (Fin 8)) (best : Option (Fin 8)), best ≠ some i →
      l.foldl (bestMountStep s path) best = l.foldl (bestMountStep t path) best ∧
        l.foldl (bestMountStep s path) best ≠ some i := by
    intro l
    induction l with
    | nil => exact fun best hbest => ⟨rfl, hbest⟩
    | cons j l ih =>
      intro best hbest
      rw [List.foldl_cons, List.foldl_cons, ← hsame best hbest j]
      exact ih _ (hne best hbest j)
  obtain ⟨hbest, hi⟩ := hfold (List.finRange 8) none (by simp)
  rw [← bestMount_eq] at hbest hi
  rw [← bestMount_eq] at hbest
  rw [resolveMount, resolveMount, ← hbest]
  cases hk : bestMount s path with
  | none => rfl
  | some k =>
    rw [hk] at hi
    have hki : k ≠ i := fun hki => hi (congrArg some hki)
    simp only [Option.bind_some, h k hki]

/-- The paths of the mounts in use fit into the field for them. -/
def Vfs.MountsStored (s : Vfs β σ) : Prop :=
  ∀ i, (s.mounts i).used = true → (s.mounts i).mountPath.length ≤ mountPathMax

lemma Vfs.MountsStored.setMount (hs : s.MountsStored) {m : VfsMount β}
    (hm : m.used = true → m.mountPath.length ≤ mountPathMax) : (s.setMount i m).MountsStored :=
  setMount_forall (q := fun _ m => m.used = true → m.mountPath.length ≤ mountPathMax)
    (fun j _ => hs j) hm

lemma Vfs.MountsStored.notMounted (hs : s.MountsStored) (hlong : mountPathMax < p.length) :
    s.NotMounted p := by
  rintro i hused rfl
  exact absurd (hs i hused) (not_le.mpr hlong)

lemma mountStep_stored (hs : s.MountsStored) (o : MountOp β) : (mountStep s o).1.MountsStored := by
  cases o with
  | mount q b =>
    simp only [mountStep]
    rcases vfsMount_cases s q b with ⟨i, hrun, -, hused, -⟩ | ⟨i, hrun, -⟩ | ⟨hrun, -⟩
    · rw [hrun]
      exact hs.setMount fun _ => hs i hused
    · rw [hrun]
      exact hs.setMount fun _ => List.length_take_le _ _
    · rwa [hrun]
  | umount q =>
    simp only [mountStep]
    rcases vfsUmount_cases s q with ⟨i, hrun, -⟩ | ⟨hrun, -⟩
    · rw [hrun]
      exact hs.setMount fun hused => by cases hused
    · rwa [hrun]

lemma Vfs.MountsReachable.stored (hs : s.MountsReachable) : s.MountsStored := by
  obtain ⟨s₀, initFiles, root, os, hmounts⟩ := hs
  have hrun : (Machine.run mountStep (vfsInit s₀ initFiles root) os).MountsStored := by
    apply Machine.run_invariant' (I := Vfs.MountsStored) fun s o hs => mountStep_stored hs o
    exact mountStep_stored (s := s₀.reset initFiles) (fun i hused => by cases hused)
      (.mount [slash] root)
  intro i
  rw [hmounts]
  exact hrun i

/-- The first mount at the path `p` is mount `i`, with backend `b`. -/
structure Vfs.MountedAt (s : Vfs β σ) (p : CString) (b : β) (i : Fin 8) : Prop where
  used : (s.mounts i).used = true
  path : (s.mounts i).mountPath = p
  ops : (s.mounts i).ops = some b
  first : ∀ j, j < i → (s.mounts j).used = true → (s.mounts j).mountPath ≠ p

/-- A mount with a path longer than `p` covers the path. -/
def CoveredBeyond (s : Vfs β σ) (p path : CString) : Prop :=
  ∃ i, s.Matches path i ∧ p.length < (s.mounts i).mountPath.length

lemma Vfs.MountedAt.setMount {i j : Fin 8} {m : VfsMount β} (h : s.MountedAt p b i) (hji : j ≠ i)
    (hm : j < i → m.used = true → m.mountPath ≠ p) : (s.setMount j m).MountedAt p b i := by
  have hi := setMount_mounts_of_ne s m hji.symm
  refine ⟨by rw [hi]; exact h.used, by rw [hi]; exact h.path, by rw [hi]; exact h.ops, ?_⟩
  intro k hk hused
  by_cases hkj : k = j
  · subst hkj
    rw [setMount_mounts_same] at hused ⊢
    exact hm hk hused
  · rw [setMount_mounts_of_ne s m hkj] at hused ⊢
    exact h.first k hk hused

lemma Vfs.MountedAt.resolves (h : s.MountedAt p b i) (hvalid : ∀ i, (s.mounts i).Valid)
    (hunder : PathUnder p path) :
    (resolveMount s path).map Prod.fst = some b ∨ CoveredBeyond s p path := by
  have hmatch : s.Matches path i := by
    rw [matches_iff (hvalid i), h.path]
    exact ⟨h.used, hunder⟩
  obtain ⟨k, hk⟩ := Option.isSome_iff_exists.mp (bestMount_isSome hmatch)
  have hkmatch := bestMount_matches hk
  have hle := bestMount_longest hvalid hk hmatch
  rw [h.path] at hle
  rcases hle.lt_or_eq with hlt | hlen
  · exact Or.inr ⟨k, hkmatch, hlt⟩
  · left
    obtain ⟨hkused, hkunder⟩ := (matches_iff (hvalid k) path).mp hkmatch
    have hhead : p.head? = some slash := h.path ▸ (hvalid i h.used).1
    have hkpath : (s.mounts k).mountPath = p :=
      (hunder.eq_of_length hhead (hvalid k hkused).1 hkunder hlen).symm
    have hki : k = i := by
      rcases lt_trichotomy k i with hlt | heq | hgt
      · exact absurd hkpath (h.first k hlt hkused)
      · exact heq
      · have hshort := bestMount_first hvalid hk hmatch hgt
        rw [h.path, hkpath] at hshort
        exact absurd hshort (lt_irrefl _)
    subst hki
    simp only [resolveMount, hk, Option.bind_some, h.ops, Option.map_some]

/-- A mount or an unmount of another path. -/
def MountOp.Spares (p : CString) : MountOp β → Prop
  | .mount q _ | .umount q => q ≠ p

/-- No mount of another path gets in front of mount `i` at `p`: either no path is cut to `p`, or only
the root comes before. -/
def StaysFirst (p : CString) (i : Fin 8) : Prop := p.length < mountPathMax ∨ i ≤ 1

lemma mountStep_mountedAt (hroot : s.RootFirst) (hfirst : StaysFirst p i) (h : s.MountedAt p b i)
    {o : MountOp β} (ho : o.Spares p) :
    (mountStep s o).1.MountedAt p b i := by
  cases o with
  | mount q b' =>
    simp only [mountStep]
    rcases vfsMount_cases s q b' with ⟨j, hrun, -, -, hpath, -⟩ | ⟨j, hrun, -, hfree, -⟩ | ⟨hrun, -⟩
    · rw [hrun]
      have hne : (s.mounts j).mountPath ≠ p := hpath ▸ ho
      refine h.setMount ?_ fun _ _ => hne
      rintro rfl
      exact hne h.path
    · rw [hrun]
      refine h.setMount ?_ fun hj _ hcut => ?_
      · rintro rfl
        rw [h.used] at hfree
        cases hfree
      · rcases hfirst with hshort | hle
        · exact ho (take_mountPathMax_eq hshort hcut)
        · obtain rfl : j = 0 := by omega
          rw [((hroot 0).2 rfl).1] at hfree
          cases hfree
    · rwa [hrun]
  | umount q =>
    simp only [mountStep]
    rcases vfsUmount_cases s q with ⟨j, hrun, -, -, hpath, -⟩ | ⟨hrun, -⟩
    · rw [hrun]
      refine h.setMount ?_ fun _ hused => by cases hused
      rintro rfl
      exact ho (hpath.symm.trans h.path)
    · rwa [hrun]

lemma vfsMount_takes_one (hroot : s.RootFirst) (hfree : (s.mounts 1).used = false)
    (habs : p.head? = some slash) (hnew : s.NotMounted p) (b : β) : (vfsMount s p b).1 =
      s.setMount 1 ⟨true, p.take mountPathMax, (p.take mountPathMax).length, some b⟩ := by
  rcases vfsMount_cases s p b with ⟨j, -, -, hused, hpath, -⟩ | ⟨j, hrun, -, hj, hbefore, -⟩ |
    ⟨-, -, hfull⟩
  · exact absurd hpath (hnew j hused)
  · rw [hrun]
    rcases lt_trichotomy j 1 with hlt | rfl | hgt
    · obtain rfl : j = 0 := by omega
      rw [((hroot 0).2 rfl).1] at hj
      cases hj
    · rfl
    · rw [hbefore 1 hgt] at hfree
      cases hfree
  · rw [hfull habs 1] at hfree
    cases hfree

/-- Once mount 1 is free, the mount of a path that is cut to `p` takes it. -/
lemma mountedAt_one_of_free (hstored : s.MountsStored) (hroot : s.RootFirst)
    (hfree : (s.mounts 1).used = false) (habs : p.head? = some slash)
    (hlen : p.length = mountPathMax) (b : β) : (vfsMount s (p ++ [97]) b).1.MountedAt p b 1 := by
  have habs' : (p ++ [97]).head? = some slash := by rw [List.head?_append, habs, Option.some_or]
  have htake : (p ++ [97]).take mountPathMax = p := by rw [← hlen, List.take_left]
  rw [vfsMount_takes_one hroot hfree habs' (hstored.notMounted (by simp [hlen])), htake]
  refine ⟨?_, ?_, ?_, fun k hk _ hpath => ?_⟩
  · rw [setMount_mounts_same]
  · rw [setMount_mounts_same]
  · rw [setMount_mounts_same]
  · obtain rfl : k = 0 := by omega
    rw [setMount_mounts_of_ne _ _ (by decide), ((hroot 0).2 rfl).2] at hpath
    subst hpath
    cases hlen

/-- When more than the root comes before mount `i` at a path of 23 characters, mounts and unmounts of
other paths lead to another backend. -/
lemma Vfs.MountedAt.taken_over (h : s.MountedAt p b i) (hvalid : ∀ i, (s.mounts i).Valid)
    (hstored : s.MountsStored) (hroot : s.RootFirst) (hlen : p.length = mountPathMax) (hi : 1 < i)
    (b' : β) : ∃ os : List (MountOp β), (∀ o ∈ os, o.Spares p) ∧
      (Machine.run mountStep s os).MountedAt p b' 1 := by
  have habs : p.head? = some slash := h.path ▸ (hvalid i h.used).1
  have hspares : (MountOp.mount (p ++ [97]) b').Spares p := fun heq => by
    simpa using congrArg List.length heq
  by_cases hused : (s.mounts 1).used = true
  · -- mount 1 is unmounted first
    have hne : (s.mounts 1).mountPath ≠ p := h.first 1 hi hused
    have hnotRoot : (s.mounts 1).mountPath ≠ [slash] := fun hpath =>
      absurd ((hroot 1).1 ⟨hused, hpath⟩) (by decide)
    refine ⟨[.umount (s.mounts 1).mountPath, .mount (p ++ [97]) b'], ?_, ?_⟩
    · simpa using ⟨hne, hspares⟩
    · have hone : (vfsUmount s (s.mounts 1).mountPath).1 = s.setMount 1 ⟨false, [], 0, none⟩ := by
        rcases vfsUmount_cases s (s.mounts 1).mountPath with ⟨j, hrun, -, hj, hpath, hfirst⟩ |
          ⟨-, -, hnone⟩
        · rw [hrun]
          rcases lt_trichotomy j 1 with hlt | rfl | hgt
          · obtain rfl : j = 0 := by omega
            exact absurd (hpath.symm.trans ((hroot 0).2 rfl).2) hnotRoot
          · rfl
          · exact absurd rfl (hfirst 1 hgt hused)
        · exact absurd rfl (hnone (hvalid 1 hused).1 hnotRoot 1 hused)
      refine mountedAt_one_of_free (mountStep_stored hstored (.umount _))
        (mountStep_rootFirst hroot (.umount _)) ?_ habs hlen b'
      rw [mountStep, hone, setMount_mounts_same]
  · refine ⟨[.mount (p ++ [97]) b'], by simpa using hspares, ?_⟩
    exact mountedAt_one_of_free hstored hroot (by simpa using hused) habs hlen b'

/-! ### The law -/

/-- The law of a mount of `p` that succeeded: from then on `p` and what lies below it goes to the
backend, until `p` is mounted or unmounted again or a longer mount covers the path; no other path
resolves differently; and when `p` was not mounted before, the unmount succeeds and every path
resolves as before. -/
structure MountLaw (s : Vfs β σ) (p : CString) (b : β) : Prop where
  resolves : ∀ os : List (MountOp β), (∀ o ∈ os, o.Spares p) → ∀ path, PathUnder p path →
    (resolveMount (Machine.run mountStep (vfsMount s p b).1 os) path).map Prod.fst = some b ∨
      CoveredBeyond (Machine.run mountStep (vfsMount s p b).1 os) p path
  frame : ∀ path, ¬ PathUnder p path →
    resolveMount (vfsMount s p b).1 path = resolveMount s path
  inverse : s.NotMounted p → (vfsUmount (vfsMount s p b).1 p).2 = .ok 0 ∧
    ∀ path, resolveMount (vfsUmount (vfsMount s p b).1 p).1 path = resolveMount s path

lemma mountLaw_length (hs : s.MountsReachable) (h : MountLaw s p b) : p.length ≤ mountPathMax := by
  by_contra hlong
  rw [not_le] at hlong
  have ht : (vfsMount s p b).1.NotMounted p :=
    (mountStep_stored hs.stored (.mount p b)).notMounted hlong
  obtain ⟨hok, -⟩ := h.inverse (hs.stored.notMounted hlong)
  rcases vfsUmount_cases (vfsMount s p b).1 p with ⟨i, -, -, hused, hpath, -⟩ | ⟨-, herr, -⟩
  · exact ht i hused hpath
  · exact herr hok

lemma vfsMount_serves (hlen : p.length ≤ mountPathMax) (hok : (vfsMount s p b).2 = .ok 0) :
    ∃ i, s.mountSlot p = some i ∧ (vfsMount s p b).1.MountedAt p b i ∧
      (∀ j, j ≠ i → (vfsMount s p b).1.mounts j = s.mounts j) ∧
      ((s.mounts i).used = true → (s.mounts i).mountPath = p) := by
  rcases vfsMount_cases s p b with ⟨i, hrun, hslot, hused, hpath, hfirst⟩ |
    ⟨i, hrun, hslot, hfree, -, hnew, -⟩ | ⟨-, herr, -⟩
  · refine ⟨i, hslot, ⟨?_, ?_, ?_, ?_⟩, ?_, fun _ => hpath⟩
    · rw [hrun, setMount_mounts_same]
      exact hused
    · rw [hrun, setMount_mounts_same]
      exact hpath
    · rw [hrun, setMount_mounts_same]
    · intro j hj
      rw [hrun, setMount_mounts_of_ne _ _ hj.ne]
      exact hfirst j hj
    · intro j hj
      rw [hrun, setMount_mounts_of_ne _ _ hj]
  · refine ⟨i, hslot, ⟨?_, ?_, ?_, ?_⟩, ?_, fun hused => ?_⟩
    · rw [hrun, setMount_mounts_same]
    · rw [hrun, setMount_mounts_same]
      exact List.take_of_length_le hlen
    · rw [hrun, setMount_mounts_same]
    · intro j hj
      rw [hrun, setMount_mounts_of_ne _ _ hj.ne]
      exact hnew j
    · intro j hj
      rw [hrun, setMount_mounts_of_ne _ _ hj]
    · rw [hfree] at hused
      cases hused
  · exact absurd hok herr

lemma mountLaw_of_staysFirst (hs : s.MountsReachable) (habs : p.head? = some slash)
    (hok : (vfsMount s p b).2 = .ok 0) (hlen : p.length ≤ mountPathMax)
    (hfirst : ∀ i, s.mountSlot p = some i → StaysFirst p i) : MountLaw s p b := by
  have hvalid := hs.valid
  have hvalid' : ∀ i, ((vfsMount s p b).1.mounts i).Valid := mountStep_valid hvalid (.mount p b)
  have hroot' : (vfsMount s p b).1.RootFirst := mountStep_rootFirst hs.root (.mount p b)
  obtain ⟨i, hslot, hserves, hothers, hold⟩ := vfsMount_serves hlen hok
  constructor
  · intro os hos path hunder
    have hrun : (∀ i, ((Machine.run mountStep (vfsMount s p b).1 os).mounts i).Valid) ∧
        (Machine.run mountStep (vfsMount s p b).1 os).RootFirst ∧
        (Machine.run mountStep (vfsMount s p b).1 os).MountedAt p b i := by
      refine Machine.run_invariant
        (I := fun t : Vfs β σ => (∀ i, (t.mounts i).Valid) ∧ t.RootFirst ∧ t.MountedAt p b i)
        (fun t o ht ho => ⟨mountStep_valid ht.1 o, mountStep_rootFirst ht.2.1 o, ?_⟩)
        ⟨hvalid', hroot', hserves⟩ (Machine.Runs.of_forall_mem hos)
      exact mountStep_mountedAt ht.2.1 (hfirst i hslot) ht.2.2 ho
    exact hrun.2.2.resolves hrun.1 hunder
  · intro path hunder
    apply resolveMount_congr hothers
    · rw [matches_iff (hvalid' i), hserves.path]
      exact fun h => hunder h.2
    · rw [matches_iff (hvalid i)]
      exact fun h => hunder (hold h.1 ▸ h.2)
  · intro hnew
    have hroot : p ≠ [slash] := by
      rintro rfl
      exact hnew 0 ((hs.root 0).2 rfl).1 ((hs.root 0).2 rfl).2
    have hfree : (s.mounts i).used = false := by
      by_contra hused
      rw [Bool.not_eq_false] at hused
      exact hnew i hused (hold hused)
    rcases vfsUmount_cases (vfsMount s p b).1 p with ⟨j, hrun, -, hused, hpath, -⟩ |
      ⟨-, -, hgone⟩
    · -- only the mount just made has the path
      have hji : j = i := by
        by_contra hji
        rw [hothers j hji] at hused hpath
        exact hnew j hused hpath
      subst hji
      rw [hrun]
      refine ⟨rfl, fun path => resolveMount_congr (i := j) (fun k hk => ?_) ?_ ?_⟩
      · rw [setMount_mounts_of_ne _ _ hk, hothers k hk]
      · rintro ⟨hused', -⟩
        rw [setMount_mounts_same] at hused'
        cases hused'
      · rintro ⟨hused', -⟩
        rw [hfree] at hused'
        cases hused'
    · exact absurd hserves.path (hgone habs hroot i hserves.used)

lemma mountLaw_staysFirst [Nontrivial β] (hs : s.MountsReachable) (hok : (vfsMount s p b).2 = .ok 0)
    (hlen : p.length = mountPathMax) (h : MountLaw s p b) : s.mountSlot p = some 1 := by
  obtain ⟨i, hslot, hserves, -⟩ := vfsMount_serves hlen.le hok
  have hvalid : ∀ i, ((vfsMount s p b).1.mounts i).Valid := mountStep_valid hs.valid (.mount p b)
  have hstored : (vfsMount s p b).1.MountsStored := mountStep_stored hs.stored (.mount p b)
  have hroot : (vfsMount s p b).1.RootFirst := mountStep_rootFirst hs.root (.mount p b)
  rw [hslot, Option.some.injEq]
  by_contra hne
  have hpos : i ≠ 0 := by
    rintro rfl
    have hpath := hserves.path.symm.trans ((hroot 0).2 rfl).2
    subst hpath
    cases hlen
  obtain ⟨b', hb'⟩ := exists_ne b
  obtain ⟨os, hos, hover⟩ := hserves.taken_over hvalid hstored hroot hlen (by omega) b'
  have hstored' : (Machine.run mountStep (vfsMount s p b).1 os).MountsStored :=
    Machine.run_invariant' (I := Vfs.MountsStored) (fun s o hs => mountStep_stored hs o) hstored os
  have hvalid' := Machine.run_invariant' (I := fun s : Vfs β σ => ∀ i, (s.mounts i).Valid)
    (fun s o hs => mountStep_valid hs o) hvalid os
  have hnot : ¬ CoveredBeyond (Machine.run mountStep (vfsMount s p b).1 os) p p := by
    rintro ⟨j, hmatch, hlt⟩
    exact absurd (hlen ▸ hstored' j hmatch.1) (not_le.mpr hlt)
  have hunder : PathUnder p p := Or.inr (Or.inl rfl)
  have hb := (h.resolves os hos p hunder).resolve_right hnot
  rw [(hover.resolves hvalid' hunder).resolve_right hnot, Option.some.injEq] at hb
  exact hb' hb

/-- In every table that mounts and unmounts lead to, the law holds of a mount exactly when its path
has fewer than 23 characters, or has 23 and is mount 1, which only the root comes before. -/
theorem mountLaw_iff [Nontrivial β] (hs : s.MountsReachable) (habs : p.head? = some slash)
    (hok : (vfsMount s p b).2 = .ok 0) : MountLaw s p b ↔
      p.length < mountPathMax ∨ p.length = mountPathMax ∧ s.mountSlot p = some 1 := by
  constructor
  · intro h
    rcases (mountLaw_length hs h).lt_or_eq with hlt | heq
    · exact Or.inl hlt
    · exact Or.inr ⟨heq, mountLaw_staysFirst hs hok heq h⟩
  · rintro (hlt | ⟨heq, hslot⟩)
    · exact mountLaw_of_staysFirst hs habs hok hlt.le fun _ _ => Or.inl hlt
    · refine mountLaw_of_staysFirst hs habs hok heq.le fun i hi => Or.inr ?_
      rw [hslot, Option.some.injEq] at hi
      exact hi ▸ le_rfl

def initialMounts : Vfs Backend BackendState := vfsInit (Vfs.blank Backend) BackendState.init .tfs

lemma initialMounts_reachable : initialMounts.MountsReachable :=
  ⟨Vfs.blank Backend, BackendState.init, .tfs, [], rfl⟩

instance : Nontrivial Backend := ⟨.tfs, .ext2, by decide⟩

/-- The path `/e`. -/
theorem mountLaw_iff_short :
    MountLaw initialMounts [slash, 101] Backend.ext2 ↔
      [slash, 101].length < mountPathMax ∨
        [slash, 101].length = mountPathMax ∧ initialMounts.mountSlot [slash, 101] = some 1 :=
  mountLaw_iff initialMounts_reachable rfl (by decide)

/-- A slash and 23 letters: one character too long. -/
def longMountPath : CString := slash :: List.replicate 23 97

/-- A path of 24 characters. -/
theorem mountLaw_long : (vfsMount initialMounts longMountPath Backend.ext2).2 = .ok 0 ∧
    (vfsUmount (vfsMount initialMounts longMountPath Backend.ext2).1 longMountPath).2 =
      .error .notFound ∧
    ¬ MountLaw initialMounts longMountPath Backend.ext2 := by
  refine ⟨by decide, by decide, fun h => ?_⟩
  exact absurd (mountLaw_length initialMounts_reachable h) (by decide)

end NeuroSpark
