import NeuroSpark.Vfs.Paths

/-!
# The mount of a path

Every table that `vfs_init`, mounts and unmounts lead to has different mount paths, and each path
goes to the mount with the longest of those above it, wherever the mounts are in the table.
-/

namespace NeuroSpark

variable {β σ : Type}

/-- The mount path is stored whole and, unless it is `/`, does not end in a slash. -/
def MountOp.Plain : MountOp β → Prop
  | .mount mountPath _ =>
    mountPath.length ≤ mountPathMax ∧ (mountPath ≠ [slash] → mountPath.getLast? ≠ some slash)
  | .umount _ => True

/-- Mounts in use have different paths. -/
def Vfs.MountsDistinct (s : Vfs β σ) : Prop :=
  ∀ i j, (s.mounts i).used = true → (s.mounts j).used = true →
    (s.mounts i).mountPath = (s.mounts j).mountPath → i = j

variable {s : Vfs β σ} {i : Fin 8}

lemma Vfs.MountsDistinct.setMount (hs : s.MountsDistinct) {m : VfsMount β}
    (hm : m.used = true → ∀ j, j ≠ i → (s.mounts j).used = true →
      (s.mounts j).mountPath ≠ m.mountPath) : (s.setMount i m).MountsDistinct := by
  intro j k hj hk hjk
  simp only [Vfs.setMount] at hj hk hjk
  by_cases hji : j = i
  · subst hji
    by_cases hki : k = j
    · exact hki.symm
    · rw [Function.update_self] at hj hjk
      rw [Function.update_of_ne hki] at hk hjk
      exact absurd hjk.symm (hm hj k hki hk)
  · rw [Function.update_of_ne hji] at hj hjk
    by_cases hki : k = i
    · subst hki
      rw [Function.update_self] at hk hjk
      exact absurd hjk (hm hk j hji hj)
    · rw [Function.update_of_ne hki] at hk hjk
      exact hs j k hj hk hjk

lemma vfsMount_distinct (hs : s.MountsDistinct) {mountPath : CString} (b : β)
    (hlen : mountPath.length ≤ mountPathMax) : (vfsMount s mountPath b).1.MountsDistinct := by
  rcases vfsMount_cases s mountPath b with ⟨i, hrun, -, hused, -⟩ | ⟨i, hrun, -, -, -, hnew, -⟩ |
    ⟨hrun, -⟩
  · rw [hrun]
    exact hs.setMount fun _ j hji hj he => hji (hs j i hj hused he)
  · rw [hrun]
    refine hs.setMount fun _ j _ hj he => hnew j hj ?_
    rwa [List.take_of_length_le hlen] at he
  · rwa [hrun]

lemma vfsUmount_distinct (hs : s.MountsDistinct) (mountPath : CString) :
    (vfsUmount s mountPath).1.MountsDistinct := by
  rcases vfsUmount_cases s mountPath with ⟨i, hrun, -⟩ | ⟨hrun, -⟩
  · rw [hrun]
    exact hs.setMount fun hused => by cases hused
  · rwa [hrun]

lemma mountsDistinct_run (s₀ : Vfs β σ) (initFiles : σ → σ) (root : β) {os : List (MountOp β)}
    (hos : ∀ o ∈ os, o.Plain) :
    (Machine.run mountStep (vfsInit s₀ initFiles root) os).MountsDistinct := by
  refine Machine.run_invariant (fun s o hs ho => ?_) ?_ (Machine.Runs.of_forall_mem hos)
  · cases o with
    | mount mountPath b => exact vfsMount_distinct hs b ho.1
    | umount mountPath => exact vfsUmount_distinct hs mountPath
  · refine vfsMount_distinct (fun i j hi => ?_) _ (by decide)
    cases hi

/-- A path is at or below a mount path. -/
def PathUnder (mountPath path : CString) : Prop :=
  mountPath = [slash] ∨ path = mountPath ∨ mountPath ++ [slash] <+: path

def pathBelow (mountPath path : CString) : CString :=
  if mountPath = [slash] then path
  else if path.drop mountPath.length = [] then [slash]
  else path.drop mountPath.length

lemma covers_iff {m : VfsMount β} (hlen : m.mountLen = m.mountPath.length) (path : CString) :
    m.covers path = true ↔ path = m.mountPath ∨ m.mountPath ++ [slash] <+: path := by
  simp only [VfsMount.covers, Bool.and_eq_true, Bool.or_eq_true, decide_eq_true_eq,
    List.isPrefixOf_iff_prefix, hlen]
  constructor
  · rintro ⟨⟨rest, rfl⟩, hend⟩
    cases rest with
    | nil => exact Or.inl (List.append_nil _)
    | cons c rest =>
      right
      obtain rfl : c = slash := by simpa using hend
      exact ⟨rest, by simp⟩
  · rintro (rfl | ⟨rest, rfl⟩)
    · exact ⟨List.prefix_refl _, Or.inl rfl⟩
    · simp

lemma matches_iff (hvalid : (s.mounts i).Valid) (path : CString) :
    s.Matches path i ↔ (s.mounts i).used = true ∧ PathUnder (s.mounts i).mountPath path := by
  refine and_congr_right fun hused => or_congr Iff.rfl ?_
  exact covers_iff (hvalid hused).2.1 path

/-- No mount seen so far that matches the path is longer than the best one. -/
def LongestSoFar (s : Vfs β σ) (path : CString) (seen : List (Fin 8)) : Option (Fin 8) → Prop
  | none => ∀ i ∈ seen, ¬ s.Matches path i
  | some j => s.Matches path j ∧
      ∀ i ∈ seen, s.Matches path i →
        (s.mounts i).mountPath.length ≤ (s.mounts j).mountPath.length

lemma LongestSoFar.replace {path : CString} {seen : List (Fin 8)} {best : Option (Fin 8)}
    (h : LongestSoFar s path seen best) (hi : s.Matches path i)
    (hlt : ∀ j ∈ best, (s.mounts j).mountPath.length < (s.mounts i).mountPath.length) :
    LongestSoFar s path (seen ++ [i]) (some i) := by
  refine ⟨hi, fun k hk hmatch => ?_⟩
  rcases List.mem_append.mp hk with hk | hk
  · cases best with
    | none => exact absurd hmatch (h k hk)
    | some j => exact (h.2 k hk hmatch).trans (hlt j rfl).le
  · rw [List.mem_singleton.mp hk]

lemma LongestSoFar.keep {path : CString} {seen : List (Fin 8)} {best : Option (Fin 8)}
    (h : LongestSoFar s path seen best)
    (hle : s.Matches path i →
      ∃ j ∈ best, (s.mounts i).mountPath.length ≤ (s.mounts j).mountPath.length) :
    LongestSoFar s path (seen ++ [i]) best := by
  cases best with
  | none =>
    intro k hk hmatch
    rcases List.mem_append.mp hk with hk | hk
    · exact h k hk hmatch
    · obtain rfl := List.mem_singleton.mp hk
      obtain ⟨j, hj, -⟩ := hle hmatch
      cases hj
  | some j =>
    refine ⟨h.1, fun k hk hmatch => ?_⟩
    rcases List.mem_append.mp hk with hk | hk
    · exact h.2 k hk hmatch
    · obtain rfl := List.mem_singleton.mp hk
      obtain ⟨j', hj', hlen⟩ := hle hmatch
      obtain rfl := Option.mem_some.mp hj'
      exact hlen

section

variable (hvalid : ∀ i, (s.mounts i).Valid) {path : CString}
include hvalid

lemma Vfs.Matches.length_pos {i : Fin 8} (h : s.Matches path i) :
    0 < (s.mounts i).mountPath.length := by
  obtain ⟨hhead, -, -⟩ := hvalid i h.1
  rw [List.length_pos_iff]
  intro hnil
  rw [hnil] at hhead
  cases hhead

/-- One round of the loop. -/
lemma LongestSoFar.step {seen : List (Fin 8)} {best : Option (Fin 8)} (i : Fin 8)
    (h : LongestSoFar s path seen best) :
    LongestSoFar s path (seen ++ [i]) (bestMountStep s path best i) := by
  unfold bestMountStep
  dsimp only
  split_ifs with hunused hroot hcovers
  · refine h.keep fun hmatch => ?_
    rw [hmatch.1] at hunused
    cases hunused
  · -- the root is the shortest mount, so it only counts while there is no other
    have hmatch : s.Matches path i := ⟨by simpa using hunused, Or.inl hroot⟩
    cases best with
    | none => exact h.replace hmatch fun j hj => by cases hj
    | some j =>
      refine h.keep fun _ => ⟨j, rfl, ?_⟩
      rw [hroot]
      exact h.1.length_pos hvalid
  · have hmatch : s.Matches path i := ⟨by simpa using hunused, Or.inr hcovers⟩
    have hlen : ∀ k, s.Matches path k → (s.mounts k).mountLen = (s.mounts k).mountPath.length :=
      fun k hk => (hvalid k hk.1).2.1
    cases best with
    | none => exact h.replace hmatch fun j hj => by cases hj
    | some j =>
      dsimp only
      split_ifs with hlonger
      · refine h.replace hmatch fun k hk => ?_
        obtain rfl := Option.mem_some.mp hk
        rwa [← hlen i hmatch, ← hlen j h.1]
      · refine h.keep fun _ => ⟨j, rfl, ?_⟩
        rw [← hlen i hmatch, ← hlen j h.1]
        exact Nat.le_of_not_lt hlonger
  · refine h.keep fun hmatch => ?_
    rcases hmatch.2 with h' | h'
    · exact absurd h' hroot
    · exact absurd h' hcovers

lemma bestMount_longest {i j : Fin 8} (hi : bestMount s path = some i) (hj : s.Matches path j) :
    (s.mounts j).mountPath.length ≤ (s.mounts i).mountPath.length := by
  have hfold : ∀ (rest seen : List (Fin 8)) (best : Option (Fin 8)),
      LongestSoFar s path seen best →
        LongestSoFar s path (seen ++ rest) (rest.foldl (bestMountStep s path) best) := by
    intro rest
    induction rest with
    | nil =>
      intro seen best h
      rwa [List.append_nil]
    | cons k rest ih =>
      intro seen best h
      rw [List.append_cons]
      exact ih _ _ (h.step hvalid k)
  have h := hfold (List.finRange 8) [] none (fun k hk => by cases hk)
  rw [← bestMount_eq, hi] at h
  exact h.2 j (List.mem_finRange j) hj

end

lemma PathUnder.eq_of_length {m m' path : CString} (hhead : m.head? = some slash)
    (hhead' : m'.head? = some slash) (h : PathUnder m path) (h' : PathUnder m' path)
    (hlen : m.length = m'.length) : m = m' := by
  have hone : ∀ {l : CString}, l.head? = some slash → l.length = 1 → l = [slash] := by
    intro l hl hl1
    obtain ⟨c, rfl⟩ := List.length_eq_one_iff.mp hl1
    simpa using hl
  have hpre : ∀ {l : CString}, PathUnder l path → l ≠ [slash] → l <+: path := by
    intro l hl hne
    rcases hl with rfl | rfl | hl
    · exact absurd rfl hne
    · exact List.prefix_refl _
    · exact (List.prefix_append _ _).trans hl
  by_cases hm : m = [slash]
  · subst hm
    exact (hone hhead' hlen.symm).symm
  · by_cases hm' : m' = [slash]
    · subst hm'
      exact hone hhead hlen
    · exact List.IsPrefix.eq_of_length
        (List.prefix_of_prefix_length_le (hpre h hm) (hpre h' hm') hlen.le) hlen

/-- In every table made by plain mounts and unmounts each path is resolved, by the one mount with
the longest path above it, to the rest of the path. -/
theorem resolveMount_longest (s₀ : Vfs β σ) (initFiles : σ → σ) (root : β) {os : List (MountOp β)}
    (hos : ∀ o ∈ os, o.Plain) (path : CString) :
    ∃ i b, ((Machine.run mountStep (vfsInit s₀ initFiles root) os).mounts i).used = true ∧
      ((Machine.run mountStep (vfsInit s₀ initFiles root) os).mounts i).ops = some b ∧
      PathUnder ((Machine.run mountStep (vfsInit s₀ initFiles root) os).mounts i).mountPath path ∧
      (∀ j, j ≠ i → ((Machine.run mountStep (vfsInit s₀ initFiles root) os).mounts j).used = true →
        PathUnder ((Machine.run mountStep (vfsInit s₀ initFiles root) os).mounts j).mountPath path →
        ((Machine.run mountStep (vfsInit s₀ initFiles root) os).mounts j).mountPath.length <
          ((Machine.run mountStep (vfsInit s₀ initFiles root) os).mounts i).mountPath.length) ∧
      resolveMount (Machine.run mountStep (vfsInit s₀ initFiles root) os) path =
        some (b, pathBelow
          ((Machine.run mountStep (vfsInit s₀ initFiles root) os).mounts i).mountPath path) := by
  have hdistinct := mountsDistinct_run s₀ initFiles root hos
  have hreach : (Machine.run mountStep (vfsInit s₀ initFiles root) os).MountsReachable :=
    ⟨s₀, initFiles, root, os, rfl⟩
  generalize Machine.run mountStep (vfsInit s₀ initFiles root) os = s at hdistinct hreach ⊢
  have hvalid := hreach.valid
  obtain ⟨i, b, hi, hb, hres⟩ := hreach.resolves path
  have hmatch := bestMount_matches hi
  obtain ⟨hused, hunder⟩ := (matches_iff (hvalid i) path).mp hmatch
  obtain ⟨hhead, hlen, -⟩ := hvalid i hused
  refine ⟨i, b, hused, hb, hunder, fun j hji hj hjunder => ?_, ?_⟩
  · have hle := bestMount_longest hvalid hi ((matches_iff (hvalid j) path).mpr ⟨hj, hjunder⟩)
    refine lt_of_le_of_ne hle fun he => hji (hdistinct j i hj hused ?_)
    exact hjunder.eq_of_length (hvalid j hj).1 hhead hunder he
  · simp only [resolveMount, hi, Option.bind_some, hb, Option.map_some, Option.some.injEq,
      Prod.mk.injEq, true_and, pathBelow, List.drop_eq_nil_iff]
    split_ifs with hroot hwhole hle hle
    · rfl
    · rfl
    · exact absurd (by omega) hle
    · -- a path no longer than its mount is the mount path itself
      rcases hunder with h | rfl | h
      · exact absurd h hroot
      · exact absurd hlen.symm hwhole
      · have := h.length_le
        rw [List.length_append, List.length_singleton] at this
        omega
    · rw [hlen]

/-- A mount at `/e/f` and, later in the table, one at `/e`. -/
def nestedMounts : List (MountOp Backend) :=
  [.mount [slash, 101, slash, 102] .ramdisk, .mount [slash, 101] .ext2]

lemma nestedMounts_plain : ∀ o ∈ nestedMounts, o.Plain := by
  intro o ho
  simp only [nestedMounts, List.mem_cons, List.not_mem_nil, or_false] at ho
  rcases ho with rfl | rfl
  · exact ⟨by decide, fun _ => by decide⟩
  · exact ⟨by decide, fun _ => by decide⟩

/-- The path `/e/f/x`. -/
theorem resolveMount_longest_nested :
    ∃ i b, ((Machine.run mountStep (vfsInit (Vfs.blank Backend) BackendState.init .tfs)
        nestedMounts).mounts i).used = true ∧
      resolveMount (Machine.run mountStep (vfsInit (Vfs.blank Backend) BackendState.init .tfs)
        nestedMounts) [slash, 101, slash, 102, slash, 120] = some (b, pathBelow
          ((Machine.run mountStep (vfsInit (Vfs.blank Backend) BackendState.init .tfs)
            nestedMounts).mounts i).mountPath [slash, 101, slash, 102, slash, 120]) := by
  obtain ⟨i, b, hused, -, -, -, hres⟩ := resolveMount_longest (Vfs.blank Backend)
    BackendState.init .tfs nestedMounts_plain [slash, 101, slash, 102, slash, 120]
  exact ⟨i, b, hused, hres⟩

end NeuroSpark
