import Mathlib.Data.List.DropRight
import NeuroSpark.Ext2.Listing

/-!
# Paths

A path is cut into components, and the driver follows them from directory to directory. Names that
are found in one state and again in another make the same paths resolve in both.
-/

namespace NeuroSpark

open Word Ext2View

variable {L : Ext2Layout} {s s' : Ext2} {name : CString} {cursor : CString} {path : CString}

/-! ### Components -/

def componentsFrom : Nat → CString → List CString
  | 0, _ => []
  | fuel + 1, cursor =>
    match parseComponent cursor with
    | none => []
    | some (component, rest) => component :: componentsFrom fuel rest

def pathComponents (path : CString) : List CString := componentsFrom path.length path

lemma parseComponent_eq_some {cursor component rest : CString}
    (h : parseComponent cursor = some (component, rest)) :
    component ≠ [] ∧ component.length < 256 ∧ slash ∉ component ∧
      (∀ c ∈ component, c ∈ cursor) ∧ (∀ c ∈ rest, c ∈ cursor) ∧ rest.length < cursor.length ∧
      rest.head? ≠ some slash := by
  unfold parseComponent at h
  split at h
  · cases h
  · rename_i hne
    have hsub : ∀ c ∈ cursor.dropWhile (· = slash), c ∈ cursor := fun c hc =>
      (List.dropWhile_sublist _).subset hc
    have hlen : (cursor.dropWhile (· = slash)).length ≤ cursor.length :=
      (List.dropWhile_sublist _).length_le
    have hhead := List.head?_dropWhile_not (fun c : UInt8 => decide (c = slash)) cursor
    generalize cursor.dropWhile (· = slash) = l at h hne hsub hlen hhead
    cases l with
    | nil => exact absurd rfl hne
    | cons x l =>
      have hx : x ≠ slash := by simpa using hhead
      obtain ⟨rfl, rfl⟩ := h
      have htake : (x :: l).takeWhile (· ≠ slash) = x :: l.takeWhile (· ≠ slash) := by
        rw [List.takeWhile_cons_of_pos (by simpa using hx)]
      have hpos : 0 < (((x :: l).takeWhile (· ≠ slash)).take ext2NameMax).length := by
        rw [htake]
        simp [ext2NameMax]
      refine ⟨List.ne_nil_of_length_pos hpos, ?_, ?_, fun c hc => ?_, fun c hc => ?_, ?_, ?_⟩
      · exact Nat.lt_of_le_of_lt (List.length_take_le _ _) (by decide)
      · intro hs
        have := List.mem_takeWhile_imp ((List.take_sublist _ _).subset hs)
        simp at this
      · exact hsub c ((List.takeWhile_sublist _).subset ((List.take_sublist _ _).subset hc))
      · exact hsub c ((List.drop_sublist _ _).subset ((List.dropWhile_sublist _).subset hc))
      · have h₁ := (List.dropWhile_sublist (fun c : UInt8 => decide (c = slash))
          (l := (x :: l).drop (((x :: l).takeWhile (· ≠ slash)).take ext2NameMax).length)).length_le
        rw [List.length_drop] at h₁
        have h₂ : 0 < (x :: l).length := Nat.succ_pos _
        omega
      · intro hs
        have := List.head?_dropWhile_not (fun c : UInt8 => decide (c = slash))
          ((x :: l).drop (((x :: l).takeWhile (· ≠ slash)).take ext2NameMax).length)
        rw [hs] at this
        simp at this

lemma parseComponent_eq_none (h : parseComponent cursor = none)
    (hhead : cursor.head? ≠ some slash) : cursor = [] := by
  unfold parseComponent at h
  split at h
  · rename_i hnil
    cases cursor with
    | nil => rfl
    | cons x l =>
      rw [List.dropWhile_cons_of_neg (by simpa using hhead)] at hnil
      cases hnil
  · cases h

lemma parseComponent_dropWhile (cursor : CString) :
    parseComponent (cursor.dropWhile (· = slash)) = parseComponent cursor := by
  have hidem : (cursor.dropWhile (· = slash)).dropWhile (· = slash) =
      cursor.dropWhile (· = slash) := List.dropWhile_idempotent _ _
  rw [parseComponent, parseComponent, hidem]

lemma componentsFrom_dropWhile (fuel : Nat) (cursor : CString) :
    componentsFrom fuel (cursor.dropWhile (· = slash)) = componentsFrom fuel cursor := by
  cases fuel with
  | zero => rfl
  | succ fuel => rw [componentsFrom, componentsFrom, parseComponent_dropWhile]

lemma goodName_of_mem_componentsFrom {fuel : Nat} (h0 : (0 : UInt8) ∉ cursor)
    (h : name ∈ componentsFrom fuel cursor) : GoodName name := by
  induction fuel generalizing cursor with
  | zero => cases h
  | succ fuel ih =>
    rw [componentsFrom] at h
    split at h
    · cases h
    · rename_i component rest hparse
      obtain ⟨hne, hlen, hslash, hsub, hrest, -⟩ := parseComponent_eq_some hparse
      rcases List.mem_cons.mp h with rfl | h
      · exact ⟨hne, hlen, fun hz => h0 (hsub _ hz), hslash⟩
      · exact ih (fun hz => h0 (hrest _ hz)) h

lemma goodName_of_mem_pathComponents (h0 : (0 : UInt8) ∉ path)
    (h : name ∈ pathComponents path) : GoodName name :=
  goodName_of_mem_componentsFrom h0 h

/-! ### Following the components -/

/-- The loop of `resolve_path` over the components. -/
def resolveComponents (s : Ext2) : Nat → List CString → Option Resolved
  | _, [] => none
  | current, [component] =>
    some ⟨(dirLookup s current component).getD 0, current, component⟩
  | current, component :: next :: cs =>
    match dirLookup s current component with
    | none => some ⟨0, current, component⟩
    | some x => resolveComponents s x (next :: cs)

lemma resolveFrom_eq (fuel current : Nat) (h : cursor.length ≤ fuel) :
    resolveFrom s fuel current cursor = resolveComponents s current (componentsFrom fuel cursor) := by
  induction fuel generalizing current cursor with
  | zero => rfl
  | succ fuel ih =>
    rw [resolveFrom, componentsFrom]
    cases hparse : parseComponent cursor with
    | none => rfl
    | some r =>
      obtain ⟨component, rest⟩ := r
      obtain ⟨-, -, -, -, -, hlt, hhead⟩ := parseComponent_eq_some hparse
      have ih : ∀ x, resolveFrom s fuel x rest =
          resolveComponents s x (componentsFrom fuel rest) := fun x => ih x (by omega)
      dsimp only
      cases fuel with
      | zero =>
        have hnil : rest = [] := List.length_eq_zero_iff.mp (by omega)
        rw [if_pos hnil]
        rfl
      | succ fuel =>
        rw [componentsFrom] at ih ⊢
        cases hrest : parseComponent rest with
        | none =>
          rw [if_pos (parseComponent_eq_none hrest hhead)]
          rfl
        | some r' =>
          have hne : rest ≠ [] := by
            rintro rfl
            cases hrest
          rw [if_neg hne]
          simp only [hrest] at ih
          simp only [resolveComponents]
          cases dirLookup s current component with
          | none => rfl
          | some x => exact ih x

lemma resolvePath_eq (hhead : path.head? = some slash) (hne : path ≠ [slash]) :
    resolvePath s path = resolveComponents s ext2RootInode (pathComponents path) := by
  rw [resolvePath, if_neg (not_not.mpr hhead), if_neg hne]
  exact resolveFrom_eq _ _ (Nat.le_refl _)

/-- The inode that a list of names leads to. -/
def walk (s : Ext2) : Nat → List CString → Option Nat
  | current, [] => some current
  | current, component :: cs => (dirLookup s current component).bind fun x => walk s x cs

lemma walk_append (current : Nat) (cs cs' : List CString) :
    walk s current (cs ++ cs') = (walk s current cs).bind fun x => walk s x cs' := by
  induction cs generalizing current with
  | nil => rfl
  | cons c cs ih =>
    rw [List.cons_append, walk, walk]
    cases dirLookup s current c with
    | none => rfl
    | some x => exact ih x

/-- The path leads through existing directories to `parent`, in which its last component `leaf` is
looked up. -/
def HasParent (s : Ext2) (path : CString) (parent : Nat) (leaf : CString) : Prop :=
  ∃ front, pathComponents path = front ++ [leaf] ∧ walk s ext2RootInode front = some parent

lemma resolveComponents_walk {current parent : Nat} {front : List CString}
    (h : walk s current front = some parent) (leaf : CString) :
    resolveComponents s current (front ++ [leaf]) =
      some ⟨(dirLookup s parent leaf).getD 0, parent, leaf⟩ := by
  induction front generalizing current with
  | nil =>
    cases h
    rfl
  | cons c cs ih =>
    obtain ⟨x, hx, hrest⟩ := Option.bind_eq_some_iff.mp h
    have ih := ih hrest
    cases cs with
    | nil =>
      simp only [List.cons_append, List.nil_append, resolveComponents, hx] at ih ⊢
      exact ih
    | cons c' cs =>
      simp only [List.cons_append, resolveComponents, hx] at ih ⊢
      exact ih

lemma resolvePath_head {r : Resolved} (h : resolvePath s path = some r) :
    path.head? = some slash := by
  by_contra hc
  rw [resolvePath, if_pos hc] at h
  cases h

lemma HasParent.resolvePath {path leaf : CString} {parent : Nat} (h : HasParent s path parent leaf)
    (hhead : path.head? = some slash) :
    resolvePath s path = some ⟨(dirLookup s parent leaf).getD 0, parent, leaf⟩ := by
  obtain ⟨front, hcs, hwalk⟩ := h
  have hne : path ≠ [slash] := by
    rintro rfl
    have hnil : pathComponents [slash] = [] := rfl
    rw [hnil] at hcs
    simp at hcs
  rw [resolvePath_eq hhead hne, hcs, resolveComponents_walk hwalk]

/-- The path with these components. -/
def renderPath (cs : List CString) : CString := cs.flatMap fun c => slash :: c

lemma parseComponent_render {c : CString} (hc : GoodName c) (cs : List CString) :
    parseComponent (renderPath (c :: cs)) =
      some (c, (renderPath cs).dropWhile (· = slash)) := by
  have htail : (renderPath cs).takeWhile (· ≠ slash) = [] := by
    cases cs with
    | nil => rfl
    | cons c' cs =>
      exact List.takeWhile_cons_of_neg (by simp)
  cases c with
  | nil => exact absurd rfl hc.ne_nil
  | cons x l =>
    have hx : x ≠ slash := fun he => hc.slash (he ▸ List.mem_cons_self ..)
    have hdrop : (renderPath ((x :: l) :: cs)).dropWhile (· = slash) =
        (x :: l) ++ renderPath cs := by
      rw [renderPath, List.flatMap_cons, List.cons_append,
        List.dropWhile_cons_of_pos (by simp), List.cons_append,
        List.dropWhile_cons_of_neg (by simpa using hx)]
      rfl
    have htake : ((x :: l) ++ renderPath cs).takeWhile (· ≠ slash) = x :: l := by
      rw [List.takeWhile_append_of_pos, htail, List.append_nil]
      intro c hcm
      rw [decide_eq_true_eq]
      rintro rfl
      exact hc.slash hcm
    have hlen : (x :: l).take ext2NameMax = x :: l :=
      List.take_of_length_le (Nat.le_of_lt_succ hc.length)
    unfold parseComponent
    rw [hdrop, List.cons_append]
    simp only [← List.cons_append, htake, hlen, List.drop_left]

lemma componentsFrom_render {cs : List CString} (hcs : ∀ c ∈ cs, GoodName c) {fuel : Nat}
    (hfuel : (renderPath cs).length ≤ fuel) : componentsFrom fuel (renderPath cs) = cs := by
  induction cs generalizing fuel with
  | nil => cases fuel <;> rfl
  | cons c cs ih =>
    have hlen : (renderPath (c :: cs)).length = c.length + 1 + (renderPath cs).length := by
      rw [renderPath, List.flatMap_cons, List.length_append, List.length_cons]
      rfl
    cases fuel with
    | zero => omega
    | succ fuel =>
      have ih : componentsFrom fuel (renderPath cs) = cs :=
        ih (fun c' hc' => hcs c' (List.mem_cons_of_mem _ hc')) (by omega)
      rw [componentsFrom, parseComponent_render (hcs c (List.mem_cons_self ..))]
      dsimp only
      rw [componentsFrom_dropWhile, ih]

lemma resolvePath_render {front : List CString} {parent : Nat} (hfront : ∀ c ∈ front, GoodName c)
    (hname : GoodName name) (h : walk s ext2RootInode front = some parent) :
    resolvePath s (renderPath (front ++ [name])) =
      some ⟨(dirLookup s parent name).getD 0, parent, name⟩ := by
  have hcs : ∀ c ∈ front ++ [name], GoodName c := by
    intro c hc
    rcases List.mem_append.mp hc with hc | hc
    · exact hfront c hc
    · exact List.mem_singleton.mp hc ▸ hname
  have hparent : HasParent s (renderPath (front ++ [name])) parent name :=
    ⟨front, componentsFrom_render hcs (Nat.le_refl _), h⟩
  apply hparent.resolvePath
  cases front <;> rfl

section

variable (live : Nat → Prop) (hlive : ∀ d name x, live d → dirLookup s d name = some x → live x)
  (hfound : ∀ d name x, live d → dirLookup s d name = some x → dirLookup s' d name = some x)
include hlive hfound

lemma walk_mono {current x : Nat} {cs : List CString} (hc : live current)
    (h : walk s current cs = some x) : walk s' current cs = some x ∧ live x := by
  induction cs generalizing current with
  | nil =>
    cases h
    exact ⟨rfl, hc⟩
  | cons c cs ih =>
    rw [walk] at h ⊢
    obtain ⟨y, hy, hrest⟩ := Option.bind_eq_some_iff.mp h
    rw [hfound current c y hc hy, Option.bind_some]
    exact ih (hlive current c y hc hy) hrest

lemma resolveComponents_mono {current : Nat} {cs : List CString} (hc : live current) {r : Resolved}
    (h : resolveComponents s current cs = some r) (hr : r.inode ≠ 0) :
    resolveComponents s' current cs = some r := by
  induction cs generalizing current with
  | nil => cases h
  | cons c cs ih =>
    cases hx : dirLookup s current c with
    | none =>
      have hzero : r.inode = 0 := by
        cases cs <;> simp only [resolveComponents, hx] at h <;> cases h <;> rfl
      exact absurd hzero hr
    | some x =>
      have hx' := hfound current c x hc hx
      cases cs with
      | nil =>
        simp only [resolveComponents, hx, hx'] at h ⊢
        exact h
      | cons c' cs =>
        simp only [resolveComponents, hx, hx'] at h ⊢
        exact ih (hlive current c x hc hx) h

lemma resolvePath_mono (hroot : live ext2RootInode) {path : CString} {r : Resolved}
    (h : resolvePath s path = some r) (hr : r.inode ≠ 0) : resolvePath s' path = some r := by
  by_cases hne : path = [slash]
  · subst hne
    exact h
  · have hhead := resolvePath_head h
    rw [resolvePath_eq hhead hne] at h ⊢
    exact resolveComponents_mono live hlive hfound hroot h hr

end

/-- Following the names looks up `name` in the directory `d`. -/
def Passes (s : Ext2) (front : List CString) (d : Nat) (name : CString) : Prop :=
  ∃ pre suf, front = pre ++ name :: suf ∧ walk s ext2RootInode pre = some d

lemma walk_along {front : List CString} {x : Nat} (h : walk s ext2RootInode front = some x)
    (hstep : ∀ d c y, Passes s front d c → dirLookup s d c = some y → dirLookup s' d c = some y) :
    walk s' ext2RootInode front = some x := by
  induction front using List.reverseRecOn generalizing x with
  | nil => exact h
  | append_singleton cs c ih =>
    rw [walk_append] at h ⊢
    obtain ⟨y, hy, hc⟩ := Option.bind_eq_some_iff.mp h
    have hpre : walk s' ext2RootInode cs = some y := by
      apply ih hy
      rintro d c' z ⟨pre, suf, rfl, hpre⟩
      exact hstep d c' z ⟨pre, suf ++ [c], by simp, hpre⟩
    have hx : dirLookup s y c = some x := by simpa [walk] using hc
    rw [hpre, Option.bind_some, walk, hstep y c x ⟨cs, [], rfl, hy⟩ hx, Option.bind_some]
    rfl

/-! ### Well-formed images -/

lemma live_of_dirLookup (hs : s.WellFormed L) {d x : Nat} (hd : (s.view L).inodeUsed d = true)
    (h : dirLookup s d name = some x) :
    IsDirectory (s.view L) d ∧ (s.view L).inodeUsed x = true ∧ x ≠ 0 := by
  by_cases hdir : ((s.view L).inode d).isDir = true
  · have hisDir : IsDirectory (s.view L) d := ⟨hd, hdir⟩
    rw [hs.dirLookup hisDir] at h
    have hx := (hs.dirs d hisDir).live _ (List.of_mem_dlookup h)
    refine ⟨hisDir, hx, ?_⟩
    have hv := (inodeUsed_valid hx).1
    exact Nat.one_le_iff_ne_zero.mp hv
  · rw [dirLookup_not_dir hs.layout (Bool.not_eq_true _ ▸ hdir)] at h
    cases h

lemma walk_live (hs : s.WellFormed L) {front : List CString} {x : Nat}
    (h : walk s ext2RootInode front = some x) : (s.view L).inodeUsed x = true :=
  (walk_mono (fun m => (s.view L).inodeUsed m = true)
    (fun _ _ _ hd hx => (live_of_dirLookup hs hd hx).2.1) (fun _ _ _ _ hx => hx) hs.root.1 h).2

section

variable (hs : s.WellFormed L) (hfound : ∀ d name x, (s.view L).inodeUsed d = true →
  dirLookup s d name = some x → dirLookup s' d name = some x)
include hs hfound

lemma walk_kept {front : List CString} {x : Nat} (h : walk s ext2RootInode front = some x) :
    walk s' ext2RootInode front = some x :=
  (walk_mono (fun m => (s.view L).inodeUsed m = true)
    (fun _ _ _ hd hx => (live_of_dirLookup hs hd hx).2.1) hfound hs.root.1 h).1

lemma resolvePath_kept {path : CString} {r : Resolved} (h : resolvePath s path = some r)
    (hr : r.inode ≠ 0) : resolvePath s' path = some r :=
  resolvePath_mono (fun m => (s.view L).inodeUsed m = true)
    (fun _ _ _ hd hx => (live_of_dirLookup hs hd hx).2.1) hfound hs.root.1 h hr

end

variable {r : Resolved}

section

variable (hs : s.WellFormed L)
include hs

variable {path : CString}

lemma resolveComponents_leaf {current : Nat} {cs : List CString}
    (hc : (s.view L).inodeUsed current = true)
    (h : resolveComponents s current cs = some r) :
    (s.view L).inodeUsed r.parent = true ∧ r.leaf ∈ cs ∧
      dirLookup s r.parent r.leaf = if r.inode = 0 then none else some r.inode := by
  induction cs generalizing current with
  | nil => cases h
  | cons c cs ih =>
    cases hx : dirLookup s current c with
    | none =>
      have heq : r = ⟨0, current, c⟩ := by
        cases cs <;> simp only [resolveComponents, hx] at h <;> cases h <;> rfl
      subst heq
      exact ⟨hc, List.mem_cons_self .., hx⟩
    | some x =>
      obtain ⟨-, hlive, hx0⟩ := live_of_dirLookup hs hc hx
      cases cs with
      | nil =>
        simp only [resolveComponents, hx, Option.getD_some] at h
        cases h
        exact ⟨hc, List.mem_cons_self .., hx.trans (if_neg hx0).symm⟩
      | cons c' cs =>
        simp only [resolveComponents, hx] at h
        obtain ⟨h₁, h₂, h₃⟩ := ih hlive h
        exact ⟨h₁, List.mem_cons_of_mem _ h₂, h₃⟩

lemma resolvePath_missing (h0 : (0 : UInt8) ∉ path) (h : resolvePath s path = some r)
    (hr : r.inode = 0) :
    (s.view L).inodeUsed r.parent = true ∧ GoodName r.leaf ∧
      dirLookup s r.parent r.leaf = none := by
  have hne : path ≠ [slash] := by
    rintro rfl
    cases h
    cases hr
  rw [resolvePath_eq (resolvePath_head h) hne] at h
  obtain ⟨hlive, hmem, habs⟩ := resolveComponents_leaf hs hs.root.1 h
  rw [if_pos hr] at habs
  exact ⟨hlive, goodName_of_mem_pathComponents h0 hmem, habs⟩

lemma resolvePath_found (h : resolvePath s path = some r) (hr : r.inode ≠ 0) :
    r = ⟨ext2RootInode, 0, []⟩ ∨ (s.view L).inodeUsed r.parent = true ∧
      dirLookup s r.parent r.leaf = some r.inode := by
  by_cases hne : path = [slash]
  · subst hne
    cases h
    exact Or.inl rfl
  · right
    rw [resolvePath_eq (resolvePath_head h) hne] at h
    obtain ⟨hlive, -, hfound⟩ := resolveComponents_leaf hs hs.root.1 h
    rw [if_neg hr] at hfound
    exact ⟨hlive, hfound⟩

lemma resolvePath_live (h : resolvePath s path = some r) (hr : r.inode ≠ 0) :
    (s.view L).inodeUsed r.inode = true := by
  rcases resolvePath_found hs h hr with rfl | ⟨hlive, hfound⟩
  · exact hs.root.1
  · exact (live_of_dirLookup hs hlive hfound).2.1

omit hs in
lemma HasParent.absent {path leaf : CString} {parent : Nat} (hp : HasParent s path parent leaf)
    (hs : s.WellFormed L) (h0 : (0 : UInt8) ∉ path) (hr : NeuroSpark.resolvePath s path = some r)
    (hzero : r.inode = 0) :
    r = ⟨0, parent, leaf⟩ ∧ (s.view L).inodeUsed parent = true ∧ GoodName leaf ∧
      dirLookup s parent leaf = none := by
  have hres := hp.resolvePath (resolvePath_head hr)
  obtain ⟨front, hcs, hwalk⟩ := hp
  have hlive := walk_live hs hwalk
  have hleaf : GoodName leaf := by
    apply goodName_of_mem_pathComponents h0
    rw [hcs]
    exact List.mem_append_right _ (List.mem_singleton_self _)
  rw [hr] at hres
  obtain rfl := Option.some.inj hres
  cases hx : dirLookup s parent leaf with
  | none => exact ⟨rfl, hlive, hleaf, rfl⟩
  | some x =>
    rw [hx, Option.getD_some] at hzero
    exact absurd hzero (live_of_dirLookup hs hlive hx).2.2

lemma Ext2.WellFormed.notMem_keys {d : Nat} (hd : IsDirectory (s.view L) d)
    (h : NeuroSpark.dirLookup s d name = none) :
    name ∉ (dirListing (s.view L) ((s.view L).inode d)).keys := by
  rw [hs.dirLookup hd] at h
  exact List.dlookup_eq_none.mp h

lemma walk_of_paths (hpaths : ∀ p q, resolvePath s p = some q → q.inode ≠ 0 →
      (resolvePath s' p).map Resolved.inode = some q.inode)
    {front : List CString} (hfront : ∀ c ∈ front, GoodName c) {x : Nat}
    (h : walk s ext2RootInode front = some x) : walk s' ext2RootInode front = some x := by
  induction front using List.reverseRecOn generalizing x with
  | nil => exact h
  | append_singleton cs c ih =>
    rw [walk_append] at h ⊢
    obtain ⟨y, hy, hc⟩ := Option.bind_eq_some_iff.mp h
    have hcs : ∀ c' ∈ cs, GoodName c' := fun c' hc' => hfront c' (List.mem_append_left _ hc')
    have hgood := hfront c (List.mem_append_right _ (List.mem_singleton_self _))
    have hy' := ih hcs hy
    have hx : dirLookup s y c = some x := by simpa [walk] using hc
    have hx0 := (live_of_dirLookup hs (walk_live hs hy) hx).2.2
    have hold := resolvePath_render hcs hgood hy
    rw [hx, Option.getD_some] at hold
    have ht := hpaths _ _ hold hx0
    rw [resolvePath_render hcs hgood hy', Option.map_some] at ht
    have ht := Option.some.inj ht
    dsimp only at ht
    rw [hy', Option.bind_some]
    cases hlook : dirLookup s' y c with
    | none =>
      rw [hlook, Option.getD_none] at ht
      exact absurd ht.symm hx0
    | some z =>
      rw [hlook, Option.getD_some] at ht
      rw [walk, hlook, Option.bind_some, ht]
      rfl

end

end NeuroSpark
