import NeuroSpark.Mem.UserBytes

/-!
# The loader stays inside the image

`load_elf32_image` compares the end of each part of the file with its size, as a sum that may wrap
round. Where it does not, all that is read lies in the file. Names are compared up to the end of one
of the two, which may be past the end of the file, and nothing checks where a relocation is made.
-/

namespace NeuroSpark

open Logged

/-- The bytes from an offset to the end of the file. -/
def UserImage.rest (image : UserImage) (offset : BitVec 32) : List (BitVec 8) :=
  (List.range (image.size.toNat - offset.toNat)).map fun i =>
    image.bytes (offset + BitVec.ofNat 32 i)

/-- What is read is in the file, and what is written to is a page of the address space. -/
def LoaderEvent.Sound (image : UserImage) (dir : Nat) : LoaderEvent → Prop
  | .read offset length => offset.toNat + length ≤ image.size.toNat
  | .write s userVa => (s.userPte dir (pageNo userVa)).isSome = true
  | _ => True

/-- The end of a part of the file is not past the end of memory. -/
def EndsBelow (offset size : BitVec 32) : Prop := offset.toNat + size.toNat < 4294967296

/-- Parts do not wrap round, or what is used of them is in the file nevertheless. No exported name
begins with all that is left of the file, and relocations are made in the user half of memory. -/
def LoaderEvent.Fine (image : UserImage) (exports : List ModuleExport) : LoaderEvent → Prop
  | .extent offset size => EndsBelow offset size
  | .item partOffset partSize offset length =>
    EndsBelow partOffset partSize ∨ offset.toNat + length ≤ image.size.toNat
  | .name offset => ∀ e ∈ exports, ¬ image.rest offset <+: e.name
  | .place userVa => ¬ (userVa < userVaddrMin ∨ userVaddrMax < userVa)
  | _ => True

namespace Loader

section

variable {image : UserImage} {exports : List ModuleExport} {dir : Nat} {offset : BitVec 32}

/-- The log says of a step of the loader that it is sound just when it says that it is fine. -/
abbrev Stays {α : Type} (image : UserImage) (exports : List ModuleExport) (dir : Nat)
    (x : Loads α) : Prop :=
  x.Agrees (LoaderEvent.Sound image dir) (LoaderEvent.Fine image exports)

lemma le_of_endsBelow {offset size total : BitVec 32} (hcheck : ¬ total < offset + size)
    (hends : EndsBelow offset size) : offset.toNat + size.toNat ≤ total.toNat := by
  have hcheck : ¬ total.toNat < (offset + size).toNat := hcheck
  rw [BitVec.toNat_add, Nat.mod_eq_of_lt hends] at hcheck
  exact not_lt.1 hcheck

lemma readItem_stays {sec : Elf32Shdr} {length : Nat}
    (hin : EndsBelow sec.shOffset sec.shSize → offset.toNat + length ≤ image.size.toNat) :
    Stays image exports dir (readItem sec offset length) := by
  refine .announced trivial (fun hfine => .tell ?_) fun hfine => ?_
  · exact iff_of_true (hfine.elim hin id) trivial
  · exact ⟨_, List.mem_singleton_self _, fun hread => hfine (Or.inr hread)⟩

/-! ### Names -/

lemma UserImage.rest_of_lt (h : offset.toNat < image.size.toNat) :
    (offset + 1).toNat = offset.toNat + 1 ∧
      image.rest offset = image.bytes offset :: image.rest (offset + 1) := by
  have hsucc : (offset + 1).toNat = offset.toNat + 1 := by
    change (_ + 1) % _ = _
    exact Nat.mod_eq_of_lt (by omega)
  obtain ⟨k, hk⟩ : ∃ k, image.size.toNat - offset.toNat = k + 1 :=
    ⟨_, (Nat.succ_pred (by omega)).symm⟩
  have hrest : image.size.toNat - (offset.toNat + 1) = k := by omega
  refine ⟨hsucc, ?_⟩
  rw [UserImage.rest, UserImage.rest, hsucc, hrest, hk, List.range_succ_eq_map, List.map_cons,
    List.map_map]
  refine congrArg₂ _ (by simp) (List.map_congr_left fun i _ => congrArg image.bytes ?_)
  rw [Nat.succ_eq_add_one, BitVec.ofNat_add, BitVec.add_assoc]
  exact congrArg (offset + ·) (BitVec.add_comm _ _)

lemma UserImage.rest_of_le (h : image.size.toNat ≤ offset.toNat) : image.rest offset = [] := by
  rw [UserImage.rest, Nat.sub_eq_zero_of_le h]
  rfl

lemma sound_read_one :
    (LoaderEvent.read offset 1).Sound image dir ↔ offset.toNat < image.size.toNat :=
  Nat.succ_le_iff

lemma strEqLocal_answers (name : List (BitVec 8)) (offset : BitVec 32) :
    (∃ b, (strEqLocal image name offset).result = .ok b) ∧
      ∀ e ∈ (strEqLocal image name offset).log, e.Fine image exports := by
  induction name generalizing offset with
  | nil => exact ⟨⟨_, rfl⟩, by simp [strEqLocal, LoaderEvent.Fine]⟩
  | cons a name ih =>
    rw [strEqLocal, (tell_bind _ _).1, (tell_bind _ _).2, List.forall_mem_cons]
    refine ⟨?_, trivial, ?_⟩
    · split_ifs
      · exact ⟨_, rfl⟩
      · exact ⟨_, rfl⟩
      · exact (ih _).1
    · split_ifs
      · simp
      · simp
      · exact (ih _).2

lemma strEqLocal_sound_iff {name : List (BitVec 8)} (hname : 0 ∉ name) (offset : BitVec 32) :
    (∀ e ∈ (strEqLocal image name offset).log, e.Sound image dir) ↔
      ¬ image.rest offset <+: name := by
  induction name generalizing offset with
  | nil =>
    simp only [strEqLocal, (tell_bind _ _).1, List.forall_mem_cons, sound_read_one]
    by_cases hlt : offset.toNat < image.size.toNat
    · simp [hlt, (UserImage.rest_of_lt hlt).2]
    · simp [hlt, UserImage.rest_of_le (not_lt.1 hlt)]
  | cons a name ih =>
    obtain ⟨ha, hname⟩ := not_or.1 (List.mem_cons.not.1 hname)
    rw [strEqLocal, (tell_bind _ _).1, List.forall_mem_cons, sound_read_one]
    by_cases hlt : offset.toNat < image.size.toNat
    swap
    · simp [hlt, UserImage.rest_of_le (not_lt.1 hlt)]
    rw [and_iff_right hlt, (UserImage.rest_of_lt hlt).2, List.cons_prefix_cons]
    -- the comparison goes on only when the bytes are equal
    by_cases hzero : image.bytes offset = 0
    · rw [if_pos hzero, hzero]
      exact iff_of_true (by simp) fun h => ha h.1
    rw [if_neg hzero]
    by_cases hne : a = image.bytes offset
    · rw [if_neg (not_not.2 hne), ih hname, and_iff_right hne.symm]
    · rw [if_pos hne]
      exact iff_of_true (by simp) fun h => hne h.1.symm

lemma strEqLocal_found {name : List (BitVec 8)}
    (hfound : (strEqLocal image name offset).result = .ok true)
    (hsound : ∀ e ∈ (strEqLocal image name offset).log, e.Sound image dir) :
    0 ∈ image.rest offset := by
  induction name generalizing offset with
  | nil =>
    rw [strEqLocal, (tell_bind _ _).1, List.forall_mem_cons, sound_read_one] at hsound
    rw [(UserImage.rest_of_lt hsound.1).2]
    have hzero : decide (image.bytes offset = 0) = true := Except.ok.inj hfound
    rw [of_decide_eq_true hzero]
    exact List.mem_cons_self
  | cons a name ih =>
    rw [strEqLocal, (tell_bind _ _).1, List.forall_mem_cons, sound_read_one] at hsound
    rw [strEqLocal, (tell_bind _ _).2] at hfound
    obtain ⟨hlt, hsound⟩ := hsound
    rw [(UserImage.rest_of_lt hlt).2]
    split_ifs at hfound hsound with hzero hne
    · cases hfound
    · cases hfound
    · exact List.mem_cons_of_mem _ (ih hfound hsound)

lemma not_isPrefix_of_zero {name rest : List (BitVec 8)} (hname : 0 ∉ name) (hzero : 0 ∈ rest) :
    ¬ rest <+: name := fun h => hname (h.subset hzero)

/-- The exports are compared one after the other up to the one that is found; those after it would
not leave the file either. -/
lemma findExport_log (offset : BitVec 32) (l : List ModuleExport) :
    (∀ e ∈ (findExport image offset l).log, e.Fine image exports) ∧
      ((∀ e ∈ (findExport image offset l).log, e.Sound image dir) ↔
        ∀ e ∈ l, ¬ image.rest offset <+: e.name) := by
  induction l with
  | nil => simp [findExport]
  | cons e l ih =>
    obtain ⟨⟨b, hb⟩, hfine⟩ := @strEqLocal_answers image exports e.name offset
    have hiff := @strEqLocal_sound_iff image dir _ e.terminated offset
    rw [findExport, (bind_of_ok hb _).1, List.forall_mem_append, List.forall_mem_append,
      List.forall_mem_cons, hiff]
    cases b with
    | false => exact ⟨⟨hfine, ih.1⟩, and_congr_right fun _ => ih.2⟩
    | true =>
      refine ⟨⟨hfine, by simp⟩, and_congr_right fun hnot => iff_of_true (by simp) fun e' _ => ?_⟩
      exact not_isPrefix_of_zero e'.terminated (strEqLocal_found hb (hiff.2 hnot))

lemma resolveExternalSymbol_log (hlt : offset.toNat < image.size.toNat) :
    (∀ e ∈ (resolveExternalSymbol image exports offset).log, e.Fine image exports) ∧
      ((∀ e ∈ (resolveExternalSymbol image exports offset).log, e.Sound image dir) ↔
        (LoaderEvent.name offset).Fine image exports) := by
  rw [resolveExternalSymbol, (tell_bind _ _).1, List.forall_mem_cons, List.forall_mem_cons,
    sound_read_one, and_iff_right hlt]
  by_cases hzero : image.bytes offset = 0
  · rw [if_pos hzero]
    refine ⟨⟨trivial, by simp⟩,
      iff_of_true (by simp) fun e _ => not_isPrefix_of_zero e.terminated ?_⟩
    rw [(UserImage.rest_of_lt hlt).2, hzero]
    exact List.mem_cons_self
  · rw [if_neg hzero]
    have hfind := @findExport_log image exports dir offset exports
    exact ⟨⟨trivial, hfind.1⟩, hfind.2⟩

lemma entry_in_part {offset size i width c : BitVec 32} {length : Nat}
    (hi : i.toNat < size.toNat / width.toNat) (hlength : c.toNat + length ≤ width.toNat) :
    (offset + i * width + c).toNat + length ≤ offset.toNat + size.toNat := by
  have hentry : i.toNat * width.toNat + width.toNat ≤ size.toNat := by
    rw [← Nat.succ_mul]
    exact (Nat.mul_le_mul_right _ hi).trans (Nat.div_mul_le_self _ _)
  rw [BitVec.toNat_add, BitVec.toNat_add, BitVec.toNat_mul]
  omega

lemma symbolValue_stays {loadBias symIdx : BitVec 32} {sym str : Elf32Shdr} {s : Paging}
    (hsym : ¬ image.size < sym.shOffset + sym.shSize)
    (hstr : ¬ image.size < str.shOffset + str.shSize) (hidx : ¬ sym.shSize / 16 ≤ symIdx) :
    Stays image exports dir (symbolValue image exports loadBias sym str symIdx s) := by
  have hidx : symIdx.toNat < sym.shSize.toNat / 16 := by
    exact not_le.1 hidx
  have hfield : ∀ c : BitVec 32, ∀ length, c.toNat + length ≤ 16 →
      EndsBelow sym.shOffset sym.shSize →
      (sym.shOffset + symIdx * 16 + c).toNat + length ≤ image.size.toNat := fun c length hc hends =>
    (entry_in_part hidx hc).trans (le_of_endsBelow hsym hends)
  refine (readItem_stays (hfield 14 2 (by decide))).bind fun _ _ => ?_
  split_ifs
  · have hname : EndsBelow sym.shOffset sym.shSize →
        (sym.shOffset + symIdx * 16).toNat + 4 ≤ image.size.toNat := by
      simpa using hfield 0 4 (by decide)
    refine (readItem_stays hname).bind fun _ _ => ?_
    generalize image.word (sym.shOffset + symIdx * 16) = stName
    dsimp only
    split_ifs with hstName
    · exact .stop _
    have hlt : EndsBelow str.shOffset str.shSize →
        (str.shOffset + stName).toNat + 1 ≤ image.size.toNat := by
      intro hends
      have hle := le_of_endsBelow hstr hends
      have hstName : ¬ str.shSize.toNat ≤ stName.toNat := hstName
      rw [BitVec.toNat_add]
      omega
    have hfirst : LoaderEvent.read (str.shOffset + stName) 1 ∈
        (resolveExternalSymbol image exports (str.shOffset + stName)).log := List.mem_cons_self
    refine .announced trivial (fun hitem => ?_) fun hitem =>
      ⟨_, List.mem_cons_of_mem _ (mem_log_bind hfirst _), fun hread => hitem (Or.inr hread)⟩
    -- the first byte of the name is in the file, so that only its end is in question
    obtain ⟨hfine, hsound⟩ := @resolveExternalSymbol_log image exports dir _
      (hitem.elim hlt id)
    refine .announced trivial (fun hname => ?_) fun hname => ?_
    · refine Agrees.bind (iff_of_true (hsound.2 hname) hfine) fun addr _ => ?_
      cases addr with
      | none => exact .stop _
      | some addr => exact .pure _
    · obtain ⟨e, hmem, he⟩ := not_forall₂.1 (hsound.not.2 hname)
      exact ⟨e, mem_log_bind hmem _, he⟩
  · exact (readItem_stays (hfield 4 4 (by decide))).bind fun _ _ => .pure _

/-! ### Tables of headers -/

lemma lt_count {n : BitVec 16} {j : BitVec 32} (h : ¬ n.setWidth 32 ≤ j) : j.toNat < n.toNat := by
  exact not_le.1 h

lemma toNat_count_mul (n : BitVec 16) {width : BitVec 32} (hwidth : width.toNat ≤ 65536) :
    (n.setWidth 32 * width).toNat = n.toNat * width.toNat := by
  have hlt := n.isLt
  have hmul := Nat.mul_le_mul (Nat.le_pred_of_lt hlt) hwidth
  exact Nat.mod_eq_of_lt (lt_of_le_of_lt hmul (by decide))

section

variable (hsize : image.size ≤ execBufferSize)

include hsize

/-- The program headers lie in the file unless their table wraps round, and then the first one does
not. -/
lemma phdr_in_file (hcheck : ¬ image.size < image.ePhoff + image.ePhnum.setWidth 32 * 32) :
    (EndsBelow image.ePhoff (image.ePhnum.setWidth 32 * 32) →
      ∀ i < image.ePhnum.toNat, Stays image exports dir (readPhdr image i)) ∧
    (¬ EndsBelow image.ePhoff (image.ePhnum.setWidth 32 * 32) →
      image.ePhnum.toNat ≠ 0 ∧
        ¬ (LoaderEvent.read (image.ePhoff + BitVec.ofNat 32 0 * 32) 32).Sound image dir) := by
  have hsize : image.size.toNat ≤ 4096 := hsize
  have htable : (image.ePhnum.setWidth 32 * 32).toNat = image.ePhnum.toNat * 32 :=
    toNat_count_mul _ (by decide)
  refine ⟨fun hends i hi => Agrees.bind (.tell (iff_of_true ?_ trivial)) fun _ _ => .pure _,
    fun hends => ?_⟩
  · have hindex : (BitVec.ofNat 32 i).toNat < (image.ePhnum.setWidth 32 * 32).toNat /
        (32 : BitVec 32).toNat := by
      rw [htable, BitVec.toNat_ofNat]
      change _ < _ * 32 / 32
      omega
    have hin : (image.ePhoff + BitVec.ofNat 32 i * 32 + 0#32).toNat + 32 ≤ _ :=
      entry_in_part hindex (by decide)
    rw [BitVec.add_zero] at hin
    exact hin.trans (le_of_endsBelow hcheck hends)
  · unfold EndsBelow at hends
    refine ⟨by omega, fun hread => ?_⟩
    have hread : (image.ePhoff + BitVec.ofNat 32 0 * 32).toNat + 32 ≤ image.size.toNat := hread
    rw [show image.ePhoff + BitVec.ofNat 32 0 * 32 = image.ePhoff by simp] at hread
    omega

lemma shdr_in_file (hshnum : image.eShnum ≠ 0)
    (hcheck : ¬ image.size < image.eShoff + image.eShnum.setWidth 32 * 40) :
    (EndsBelow (image.eShoff + 4) (image.eShnum.setWidth 32 * 40 - 4) →
      ∀ i < image.eShnum.toNat, Stays image exports dir (readShdr image i)) ∧
    (¬ EndsBelow (image.eShoff + 4) (image.eShnum.setWidth 32 * 40 - 4) →
      ¬ (LoaderEvent.read (image.eShoff + 4 + BitVec.ofNat 32 0 * 40) 36).Sound image dir) := by
  have hsize : image.size.toNat ≤ 4096 := hsize
  have hpos : image.eShnum.toNat ≠ 0 := fun h => hshnum (BitVec.eq_of_toNat_eq h)
  have htable : (image.eShnum.setWidth 32 * 40).toNat = image.eShnum.toNat * 40 :=
    toNat_count_mul _ (by decide)
  have hpart : (image.eShnum.setWidth 32 * 40 - 4).toNat = image.eShnum.toNat * 40 - 4 := by
    change (4294967292 + _) % _ = _
    omega
  have hcheck : ¬ image.size.toNat < (image.eShoff + image.eShnum.setWidth 32 * 40).toNat := hcheck
  rw [BitVec.toNat_add, htable] at hcheck
  have hfirst : (image.eShoff + 4).toNat = (image.eShoff.toNat + 4) % 4294967296 :=
    BitVec.toNat_add _ _
  unfold EndsBelow
  refine ⟨fun hends i hi => Agrees.bind (.tell (iff_of_true ?_ trivial)) fun _ _ => .pure _,
    fun hends hread => ?_⟩
  · change (image.eShoff + 4 + BitVec.ofNat 32 i * 40).toNat + 36 ≤ image.size.toNat
    have hwhere : (image.eShoff + 4 + BitVec.ofNat 32 i * 40).toNat ≤
        (image.eShoff + 4).toNat + i * 40 := by
      change (_ + _ % _ * 40 % _) % _ ≤ _
      omega
    omega
  · have hread : (image.eShoff + 4 + BitVec.ofNat 32 0 * 40).toNat + 36 ≤ image.size.toNat := hread
    rw [show image.eShoff + 4 + BitVec.ofNat 32 0 * 40 = image.eShoff + 4 by simp] at hread
    omega

end

end

/-! ### Memory -/

section

variable {image : UserImage} {exports : List ModuleExport} {base : Pmm} {dir supply : Nat}
  {pd : BitVec 32} {s : Paging} {α : Type}

/-- Memory at some time while an image is loaded. -/
def Loading (base : Pmm) (dir supply : Nat) (s : Paging) : Prop :=
  ∃ done, s.Loaded base dir supply done

/-- A step that stays inside and after which loading can go on. -/
def KeepsLoading (image : UserImage) (exports : List ModuleExport) (base : Pmm) (dir supply : Nat)
    (x : Loads Paging) : Prop :=
  Stays image exports dir x ∧ ∀ s', x.result = .ok s' → Loading base dir supply s'

lemma KeepsLoading.stop (e : Refusal × Paging) :
    KeepsLoading image exports base dir supply (Logged.stop e) := ⟨.stop e, nofun⟩

lemma KeepsLoading.pure (hs : Loading base dir supply s) :
    KeepsLoading image exports base dir supply (Pure.pure s) := by
  refine ⟨.pure s, ?_⟩
  rintro s' ⟨⟩
  exact hs

lemma KeepsLoading.bind {x : Loads α} {f : α → Loads Paging} (hx : Stays image exports dir x)
    (hf : ∀ a, x.result = .ok a → KeepsLoading image exports base dir supply (f a)) :
    KeepsLoading image exports base dir supply (x >>= f) := by
  refine ⟨hx.bind fun a ha => (hf a ha).1, fun s' h => ?_⟩
  obtain ⟨a, ha, h⟩ := of_result_bind h
  exact (hf a ha).2 s' h

lemma KeepsLoading.foldlM {f : Paging → Nat → Loads Paging} {l : List Nat}
    (hround : ∀ s, ∀ i ∈ l, Loading base dir supply s →
      KeepsLoading image exports base dir supply (f s i)) (hs : Loading base dir supply s) :
    KeepsLoading image exports base dir supply (l.foldlM f s) :=
  Agrees.foldlM hround hs

lemma not_userPage {va : BitVec 32} (h : va < userVaddrMin ∨ userVaddrMax < va) :
    ¬ UserPage (pageNo va) := by
  have h : va.toNat < 0x40000000 ∨ 0xBFFFFFFF < va.toNat := h
  unfold UserPage pageNo pageSize
  omega

lemma Loading.setPhysWord (hs : Loading base dir supply s) (hpd : pd &&& pageMask ≠ 0)
    (hdir : frameOf pd = dir) {va : BitVec 32} (hva : UserPage (pageNo va))
    (hphys : resolveUserPhys s pd va ≠ 0) (hoff : ¬ 4092 < resolveUserPhys s pd va &&& 0xFFF)
    (v : BitVec 32) : Loading base dir supply (setPhysWord s (resolveUserPhys s pd va) v) := by
  obtain ⟨done, hs⟩ := hs
  obtain ⟨e, he, htoNat⟩ := hs.phys hpd hdir hva hphys
  clear hphys
  replace hoff : ¬ 4092 < (resolveUserPhys s pd va &&& 0xFFF).toNat := hoff
  rw [toNat_and_offset] at hoff
  generalize resolveUserPhys s pd va = phys at htoNat hoff ⊢
  have hframe : ∀ i ∈ List.range 4, frameOf (phys + BitVec.ofNat 32 i) = frameOf e := by
    intro i hi
    have hi := List.mem_range.1 hi
    rw [frameOf_eq_div (phys + _), BitVec.toNat_add, BitVec.toNat_ofNat]
    unfold pageSize at htoNat hoff ⊢
    omega
  unfold Loader.setPhysWord
  generalize List.range 4 = l at hframe
  induction l generalizing s with
  | nil => exact ⟨done, hs⟩
  | cons i l ih =>
    obtain ⟨hs', hptes, -⟩ := hs.setPhysByte (pageNo_lt va) he (hframe i List.mem_cons_self)
      (byteOfWord v i)
    exact ih hs' ((hptes _ (pageNo_lt va)).trans he) fun j hj =>
      hframe j (List.mem_cons_of_mem _ hj)

section

variable (hpd : pd &&& pageMask ≠ 0) (hdir : frameOf pd = dir)

include hpd hdir

lemma writeUserU32_keeps (hs : Loading base dir supply s) (va v : BitVec 32) :
    KeepsLoading image exports base dir supply (writeUserU32 pd va v s) := by
  simp only [writeUserU32]
  split_ifs with hphys hoff hout
  · exact .stop _
  · exact .stop _
  · -- the page of the address belongs to the kernel
    obtain ⟨done, hs⟩ := hs
    obtain ⟨base', -, -, hsound⟩ := hs.sound
    refine ⟨.announced trivial (fun hfine => absurd hout hfine) fun _ =>
      ⟨_, List.mem_cons_self, ?_⟩, nofun⟩
    change ¬ (s.userPte dir (pageNo va)).isSome = true
    rw [hsound.userPte_eq_none (pageNo_lt va) (not_userPage hout)]
    exact Bool.false_ne_true
  · have hva := userPage_of_user (not_or.1 hout).1 (not_or.1 hout).2
    refine ⟨.announced trivial (fun _ => Agrees.bind (.tell (iff_of_true ?_ trivial)) fun _ _ =>
      .pure _) fun hfine => absurd hout hfine, ?_⟩
    · obtain ⟨done, hs⟩ := hs
      obtain ⟨e, he, -⟩ := hs.phys hpd hdir hva hphys
      change (s.userPte dir (pageNo va)).isSome = true
      rw [he]
      rfl
    · rintro s' ⟨⟩
      exact hs.setPhysWord hpd hdir hva hphys hoff v

lemma relocateWord_keeps (hs : Loading base dir supply s)
    (loadBias relType place addend symValue : BitVec 32) :
    KeepsLoading image exports base dir supply
      (relocateWord pd loadBias relType place addend symValue s) := by
  unfold relocateWord
  have hwrite : ∀ v, KeepsLoading image exports base dir supply (writeUserU32 pd place v s) :=
    writeUserU32_keeps hpd hdir hs place
  split_ifs
  · exact .pure hs
  · exact hwrite _
  · exact hwrite _
  · exact hwrite _
  · exact hwrite _
  · exact .stop _

omit hpd hdir in
lemma readAddend_stays (isRela : Bool) (entry place : BitVec 32) :
    Stays image exports dir (readAddend image pd isRela entry place s) := by
  simp only [readAddend, readUserU32]
  split_ifs
  · exact .pure _
  · exact .stop _
  · exact .stop _
  · exact .pure _

/-- An entry belongs to its section, its symbol to the symbols and its name to the names. -/
lemma relocateEntry_keeps (hs : Loading base dir supply s) (loadBias : BitVec 32)
    {rel target sym str : Elf32Shdr} {r : Nat}
    (hkind : rel.shType = 9 ∧ rel.shEntsize = 8 ∨ rel.shType = 4 ∧ rel.shEntsize = 12)
    (hr : r < (rel.shSize / rel.shEntsize).toNat) (hrel : ¬ image.size < rel.shOffset + rel.shSize)
    (hsym : ¬ image.size < sym.shOffset + sym.shSize)
    (hstr : ¬ image.size < str.shOffset + str.shSize) :
    KeepsLoading image exports base dir supply
      (relocateEntry image exports pd loadBias rel target sym str s r) := by
  have hentry : EndsBelow rel.shOffset rel.shSize →
      (rel.shOffset + BitVec.ofNat 32 r * rel.shEntsize).toNat +
        (if rel.shType = 4 then 12 else 8) ≤ image.size.toNat := by
    intro hends
    have hindex : (BitVec.ofNat 32 r).toNat = r := by
      exact Nat.mod_eq_of_lt (hr.trans (BitVec.isLt _))
    have hlength : (0#32).toNat + (if rel.shType = 4 then 12 else 8) ≤ rel.shEntsize.toNat := by
      rcases hkind with ⟨htype, hsize⟩ | ⟨htype, hsize⟩ <;> rw [htype, hsize] <;> decide
    have hin : (rel.shOffset + BitVec.ofNat 32 r * rel.shEntsize + 0#32).toNat + _ ≤ _ :=
      entry_in_part (hindex.symm ▸ hr) hlength
    rw [BitVec.add_zero] at hin
    exact hin.trans (le_of_endsBelow hrel hends)
  refine .bind (readItem_stays (by simpa using hentry)) fun _ _ => ?_
  by_cases hwraps : target.shAddr + image.word (rel.shOffset + BitVec.ofNat 32 r * rel.shEntsize) <
    target.shAddr
  · rw [if_pos hwraps]
    exact .stop _
  rw [if_neg hwraps]
  refine .bind (readAddend_stays _ _ _) fun addend _ => ?_
  split_ifs with hidx
  · exact .stop _
  · exact .bind (symbolValue_stays hsym hstr hidx) fun _ _ =>
      relocateWord_keeps hpd hdir hs _ _ _ _ _

lemma relocateSection_keeps (hs : Loading base dir supply s) (loadBias : BitVec 32) {i : Nat}
    (hshdr : ∀ i < image.eShnum.toNat, Stays image exports dir (readShdr image i))
    (hi : i < image.eShnum.toNat) :
    KeepsLoading image exports base dir supply
      (relocateSection image exports pd loadBias s i) := by
  refine .bind (hshdr i hi) fun rel _ => ?_
  split_ifs with hskip hkind hrange hrel
  · exact .pure hs
  · exact .stop _
  · exact .stop _
  · obtain ⟨hinfo, hlink⟩ := not_or.1 hrange
    refine .bind (hshdr _ (lt_count hinfo)) fun target _ => ?_
    refine .bind (hshdr _ (lt_count hlink)) fun sym _ => ?_
    split_ifs with htype hstrLink
    · exact .stop _
    · exact .stop _
    · refine .bind (hshdr _ (lt_count hstrLink)) fun str _ => ?_
      split_ifs with hstrType hparts
      · exact .stop _
      · exact .stop _
      · obtain ⟨hsym, hstr⟩ := not_or.1 hparts
        exact .foldlM (fun s' r hr hs' => relocateEntry_keeps hpd hdir hs' loadBias hkind
          (List.mem_range.1 hr) hrel hsym hstr) hs
  · exact .pure hs

lemma applyElfRelocations_stays (hsize : image.size ≤ execBufferSize)
    (hs : Loading base dir supply s) (loadBias : BitVec 32) :
    Stays image exports dir (applyElfRelocations image exports pd loadBias s) := by
  simp only [applyElfRelocations]
  split_ifs with hnone hcheck
  · exact .pure _
  · exact .stop _
  obtain ⟨-, hshnum, -⟩ := (not_or.1 hnone).imp_right not_or.1
  obtain ⟨hin, hout⟩ := @shdr_in_file image exports dir hsize hshnum hcheck
  obtain ⟨k, hk⟩ : ∃ k, image.eShnum.toNat = k + 1 :=
    Nat.exists_eq_succ_of_ne_zero fun h => hshnum (BitVec.eq_of_toNat_eq h)
  -- the first thing that the loop does is to read the first header
  have hfirst : LoaderEvent.read (image.eShoff + 4 + BitVec.ofNat 32 0 * 40) 36 ∈
      ((List.range image.eShnum.toNat).foldlM
        (relocateSection image exports pd loadBias) s).log := by
    rw [hk, List.range_succ_eq_map, List.foldlM_cons]
    exact mem_log_bind (mem_log_bind List.mem_cons_self _) _
  have hloop := fun hends => KeepsLoading.foldlM
    (fun s' i hi hs' => relocateSection_keeps hpd hdir hs' loadBias (hin hends)
      (List.mem_range.1 hi)) hs
  exact .announced trivial (fun hends => (hloop hends).1) fun hends => ⟨_, hfirst, hout hends⟩

/-! ### Segments -/

lemma mapZeroPage_keeps (hlow : ∀ page < 256, base.Used page) (hs : Loading base dir supply s)
    {n : Nat} (hn : UserPage n) :
    KeepsLoading image exports base dir supply (mapZeroPage pd s n) := by
  obtain ⟨done, hs⟩ := hs
  have hcases := mapZeroPage_maps hs hlow hpd hdir hn
  unfold mapZeroPage
  generalize NeuroSpark.mapZeroPage pd s n = r at hcases ⊢
  rcases hcases with ⟨s', rfl, hs', hmaps, -⟩ | ⟨s', rfl, -⟩
  · obtain ⟨e, he, -⟩ := hmaps.fresh n hn.lt rfl
    refine .bind (.tell (iff_of_true ?_ trivial)) fun _ _ => .pure ⟨_, hs'⟩
    change (s'.userPte dir (pageNo (pageAddress n))).isSome = true
    rw [pageNo_pageAddress hn.lt, he]
    rfl
  · exact .stop _

lemma mapUserRange_keeps (hlow : ∀ page < 256, base.Used page) (hs : Loading base dir supply s)
    {start size : BitVec 32} (hrange : isUserRange start size = true) :
    KeepsLoading image exports base dir supply (mapUserRange pd s start size) := by
  rw [mapUserRange]
  split_ifs
  · exact .stop _
  · exact .foldlM (fun s' n hn hs' => mapZeroPage_keeps hpd hdir hlow hs'
      (userPage_of_mem_rangePages hrange hn)) hs

lemma copyByte_keeps (hs : Loading base dir supply s) {va src : BitVec 32} {i : Nat}
    (hva : UserPage (pageNo (va + BitVec.ofNat 32 i)))
    (hin : (src + BitVec.ofNat 32 i).toNat < image.size.toNat) :
    KeepsLoading image exports base dir supply (copyByte image pd va src s i) := by
  obtain ⟨done, hs⟩ := hs
  refine ⟨?_, fun s' hok => ⟨done, (copyByte_writes hs hpd hdir hva hok).1⟩⟩
  simp only [copyByte]
  split_ifs with hphys
  · exact .stop _
  · obtain ⟨e, he, -⟩ := hs.phys hpd hdir hva hphys
    refine Agrees.bind (.tell (iff_of_true (sound_read_one.2 hin) trivial)) fun _ _ =>
      Agrees.bind (.tell (iff_of_true ?_ trivial)) fun _ _ => .pure _
    change (s.userPte dir (pageNo (va + BitVec.ofNat 32 i))).isSome = true
    rw [he]
    rfl

/-- The bytes of a segment are in the file unless their end wraps round, and then the first one is
not. -/
lemma copySegment_stays (hsize : image.size ≤ execBufferSize) {done : List Nat}
    (hs : s.Loaded base dir supply done) (hlow : ∀ page < 256, base.Used page)
    {va memsz src filesz : BitVec 32} (hrange : isUserRange va memsz = true)
    (hfilesz : ¬ memsz < filesz) (hcheck : ¬ image.size < src + filesz)
    (hdone : ∀ n ∈ rangePages va memsz, n ∈ done) :
    Stays image exports dir (do
      tell (.extent src filesz)
      copyToUserSpace image pd va src filesz s) := by
  have hsize : image.size.toNat ≤ 4096 := hsize
  have hle : ¬ memsz.toNat < filesz.toNat := hfilesz
  obtain ⟨hmemsz, hmin, hmax⟩ := (isUserRange_iff _ _).1 hrange
  have hpage : ∀ i < memsz.toNat, UserPage (pageNo (va + BitVec.ofNat 32 i)) := fun i hi =>
    userPage_of_mem_rangePages hrange (mem_rangePages_of_lt hrange hi)
  refine .announced trivial (fun hends => ?_) fun hends => ?_
  · have hend := le_of_endsBelow hcheck hends
    refine (KeepsLoading.foldlM (fun s' i hi hs' => copyByte_keeps hpd hdir hs'
      (hpage i ?_) ?_) ⟨done, hs⟩).1
    · have hi := List.mem_range.1 hi
      omega
    · have hi := List.mem_range.1 hi
      rw [BitVec.toNat_add, BitVec.toNat_ofNat]
      omega
  · have hends : ¬ src.toNat + filesz.toNat < 4294967296 := hends
    obtain ⟨k, hk⟩ : ∃ k, filesz.toNat = k + 1 := Nat.exists_eq_succ_of_ne_zero (by omega)
    -- the first page is mapped, so that the first byte is read
    have hphys : resolveUserPhys s pd (va + BitVec.ofNat 32 0) ≠ 0 := fun hzero =>
      (hs.resolve hlow hpd hdir (hpage 0 hmemsz)).1 hzero
        (hdone _ (mem_rangePages_of_lt hrange hmemsz))
    refine ⟨.read (src + BitVec.ofNat 32 0) 1, ?_, ?_⟩
    · rw [copyToUserSpace, hk, List.range_succ_eq_map, List.foldlM_cons]
      simp only [copyByte]
      rw [if_neg hphys]
      exact List.mem_cons_self
    · rw [sound_read_one, show src + BitVec.ofNat 32 0 = src by simp]
      omega

lemma loadSegment_keeps (hsize : image.size ≤ execBufferSize) (hs : Loading base dir supply s)
    (hlow : ∀ page < 256, base.Used page) (loadBias : BitVec 32) {i : Nat}
    (hphdr : Stays image exports dir (readPhdr image i)) :
    KeepsLoading image exports base dir supply (loadSegment image pd loadBias s i) := by
  refine .bind hphdr ?_
  rintro _ ⟨⟩
  generalize image.phdr i = ph
  by_cases hloads : ph.loads = true
  swap
  · rw [if_pos hloads]
    exact .pure hs
  rw [if_neg (not_not.2 hloads)]
  by_cases haccepted : ph.accepted image.size loadBias = true
  swap
  · rw [if_pos haccepted]
    exact .stop _
  rw [if_neg (not_not.2 haccepted)]
  obtain ⟨hrange, hfilesz⟩ := Elf32Phdr.range_of_accepted haccepted
  have hcheck := Elf32Phdr.end_of_accepted haccepted
  refine .bind (mapUserRange_keeps hpd hdir hlow hs hrange).1 fun s₁ hok => ?_
  obtain ⟨done, hs⟩ := hs
  obtain ⟨hs₁, -⟩ := mapUserRange_maps hs hlow hpd hdir hrange hok
  refine ⟨copySegment_stays hpd hdir hsize hs₁ hlow hrange hfilesz hcheck fun n hn =>
    List.mem_append_right _ hn, fun s' hcopy => ?_⟩
  refine ⟨_, (copyToUserSpace_writes hs₁ hpd hdir (fun i hi => ?_) hcopy).1⟩
  have hle : ¬ ph.pMemsz.toNat < ph.pFilesz.toNat := hfilesz
  exact userPage_of_mem_rangePages hrange (mem_rangePages_of_lt hrange (by omega))

omit hpd hdir in
lemma loadSegments_reads (hphnum : image.ePhnum.toNat ≠ 0) (ticks : BitVec 32) (s : Paging) :
    LoaderEvent.read (image.ePhoff + BitVec.ofNat 32 0 * 32) 32 ∈
      (loadSegments image ticks exports pd s).log := by
  obtain ⟨n, hn⟩ := Nat.exists_eq_succ_of_ne_zero hphnum
  unfold loadSegments
  by_cases hdyn : image.eType = UserImage.etDyn
  · -- the bounds of a shared object are looked for first
    refine mem_log_bind ?_ _
    rw [readBounds, if_pos hdyn, hn, List.range_succ_eq_map, List.forM_eq_forM, List.forM_cons]
    exact mem_log_bind (mem_log_bind List.mem_cons_self _) _
  · have hbounds : (readBounds image).result = .ok () := by
      rw [readBounds, if_neg hdyn]
      rfl
    have hbias : image.loadBias ticks = some 0 := by
      rw [UserImage.loadBias, if_pos hdyn]
    rw [(bind_of_ok hbounds _).1, hbias, hn, List.range_succ_eq_map]
    refine List.mem_append_right _ (mem_log_bind ?_ _)
    rw [List.foldlM_cons]
    exact mem_log_bind (mem_log_bind List.mem_cons_self _) _

lemma loadSegments_stays (hsize : image.size ≤ execBufferSize) (hs : Loading base dir supply s)
    (hlow : ∀ page < 256, base.Used page) (ticks : BitVec 32)
    (hphdr : ∀ i < image.ePhnum.toNat, Stays image exports dir (readPhdr image i)) :
    Stays image exports dir (loadSegments image ticks exports pd s) := by
  refine Agrees.bind ?_ fun _ _ => ?_
  · rw [readBounds]
    split_ifs
    · exact .forM fun i hi => (hphdr i (List.mem_range.1 hi)).bind fun _ _ => .pure _
    · exact .pure _
  cases image.loadBias ticks with
  | none => exact .stop _
  | some loadBias =>
    have hloop : KeepsLoading image exports base dir supply
        ((List.range image.ePhnum.toNat).foldlM (loadSegment image pd loadBias) s) :=
      .foldlM (fun s' i hi hs' => loadSegment_keeps hpd hdir hsize hs' hlow loadBias
        (hphdr i (List.mem_range.1 hi))) hs
    refine hloop.1.bind fun s₁ hok =>
      (applyElfRelocations_stays hpd hdir hsize (hloop.2 s₁ hok) loadBias).bind fun s₂ _ => ?_
    dsimp only
    split_ifs <;> exact .of_log_nil rfl

lemma loadElf32Image_stays (hsize : image.size ≤ execBufferSize) (hs : Loading base dir supply s)
    (hlow : ∀ page < 256, base.Used page) (ticks : BitVec 32) :
    Stays image exports dir (loadElf32Image image ticks exports pd s) := by
  unfold loadElf32Image
  by_cases hsmall : image.size < 52
  · rw [if_pos hsmall]
    exact .stop _
  rw [if_neg hsmall]
  have hread : (LoaderEvent.read 0 52).Sound image dir := not_lt.1 hsmall
  refine Agrees.bind (.tell (iff_of_true hread trivial)) fun _ _ => ?_
  by_cases hheader : image.headerAccepted = true
  swap
  · rw [if_pos hheader]
    exact .stop _
  rw [if_neg (not_not.2 hheader)]
  have hcheck : ¬ image.size < image.ePhoff + image.ePhnum.setWidth 32 * 32 := by
    simp only [UserImage.headerAccepted, decide_eq_true_eq] at hheader
    exact hheader.2.2.2.2.2.2
  obtain ⟨hin, hout⟩ := @phdr_in_file image exports dir hsize hcheck
  refine .announced trivial (fun hends =>
    loadSegments_stays hpd hdir hsize hs hlow ticks (hin hends)) fun hends => ?_
  obtain ⟨hphnum, hbad⟩ := hout hends
  exact ⟨_, loadSegments_reads hphnum ticks s, hbad⟩

end

end

end Loader

/-! ### Exec -/

/-- `exec_user_image` has come to the segments: there are a directory and a stack. -/
structure ExecMemory (k : KernelLayout) (s₀ : Paging) (pd : BitVec 32) (s : Paging) : Prop where
  booted : s₀.Booted k
  directory : (createUserPageDirectory k s₀).2 = pd
  allocated : pd ≠ 0
  stack : setupUserStack pd (createUserPageDirectory k s₀).1 = .ok s

section

variable {k : KernelLayout} {s₀ s : Paging} {pd : BitVec 32}

lemma ExecMemory.loaded (h : ExecMemory k s₀ pd s) :
    pd &&& pageMask ≠ 0 ∧ s.Loaded s₀.memoryBitmap (frameOf pd) s₀.memoryBitmap.freePages.card
      [stackPage] ∧ ∃ s₁ : Paging, s₁.MapsZero (frameOf pd) (· = stackPage) s := by
  obtain ⟨hbooted, rfl, hne, hstack⟩ := h
  rcases createUserPageDirectory_loaded hbooted with ⟨-, hfail⟩ | ⟨hpd, hloaded⟩
  · rw [hfail] at hne
    exact absurd rfl hne
  have hmask : (createUserPageDirectory k s₀).2 &&& pageMask ≠ 0 := by
    rwa [hpd.aligned]
  refine ⟨hmask, ?_⟩
  have hpage : UserPage stackPage := by
    rw [pageNo_userVa.1]
    unfold UserPage
    omega
  rw [setupUserStack_eq hloaded hbooted.low hmask rfl] at hstack
  rcases mapZeroPage_maps hloaded hbooted.low hmask rfl hpage with
    ⟨s', hok, hs', hmaps, -⟩ | ⟨s', herror, -⟩
  · rw [hok] at hstack
    obtain rfl := Except.ok.inj hstack
    exact ⟨hs', _, hmaps⟩
  · rw [herror] at hstack
    cases hstack

/-- What the loader reads is in the file, and what it writes to in the new address space, just when
nothing that it comes to in the file wraps round, no name ends with the file and no relocation is
made outside the user half. -/
theorem loadElf32Image_sound_iff (h : ExecMemory k s₀ pd s) {image : UserImage}
    (hsize : image.size ≤ execBufferSize) (ticks : BitVec 32) (exports : List ModuleExport) :
    (∀ e ∈ (Loader.loadElf32Image image ticks exports pd s).log, e.Sound image (frameOf pd)) ↔
      ∀ e ∈ (Loader.loadElf32Image image ticks exports pd s).log, e.Fine image exports :=
  Loader.loadElf32Image_stays h.loaded.1 rfl hsize ⟨_, h.loaded.2.1⟩ h.booted.low ticks

end

/-- All of memory above 2 MB is free. -/
def memoryAbove2MB : Paging := ⟨below2MB, fun _ _ => 0⟩

/-- An image that is zero but for some bytes. -/
def sparseImage (size : BitVec 32) (bytes : List (BitVec 32 × BitVec 8)) : UserImage :=
  ⟨fun offset => (bytes.lookup offset).getD 0, size⟩

/-- The bytes of a header of an executable file with `phnum` program headers from `phoff` on. -/
def headerBytes (phoff : BitVec 32) (phnum : BitVec 8) : List (BitVec 32 × BitVec 8) :=
  [(0, 0x7F), (1, 0x45), (2, 0x4C), (3, 0x46), (4, 1), (16, 2), (18, 3), (25, 0x20), (27, 0x40),
    (28, byteOfWord phoff 0), (29, byteOfWord phoff 1), (30, byteOfWord phoff 2),
    (31, byteOfWord phoff 3), (42, 32), (44, phnum)]

/-- The table of program headers ends where the file begins. -/
def wrappingImage : UserImage := sparseImage 52 (headerBytes 0xFFFFFFE0 1)

lemma execMemory_above2MB : ∃ s, ExecMemory kernelOf2MB memoryAbove2MB 0x200000 s := by
  have hbooted : memoryAbove2MB.Booted kernelOf2MB := by
    have hlow : ∀ page < 512, below2MB.Used page := by decide +kernel
    refine ⟨fun page hpage => hlow page ?_, fun _ _ => BitVec.zero_and⟩
    have hpage : page * 4096 < 0x200000 := hpage
    omega
  have hdirectory : (createUserPageDirectory kernelOf2MB memoryAbove2MB).2 = 0x200000 := by
    decide +kernel
  have hok : (setupUserStack 0x200000 (createUserPageDirectory kernelOf2MB memoryAbove2MB).1).isOk =
      true := by
    decide +kernel
  cases hstack : setupUserStack 0x200000 (createUserPageDirectory kernelOf2MB memoryAbove2MB).1 with
  | error e =>
    rw [hstack] at hok
    cases hok
  | ok s => exact ⟨s, hbooted, hdirectory, by decide, hstack⟩

/-- The program header of this file is not in it. -/
theorem loadElf32Image_not_sound :
    ∃ s, ExecMemory kernelOf2MB memoryAbove2MB 0x200000 s ∧ wrappingImage.size ≤ execBufferSize ∧
      ¬ ∀ e ∈ (Loader.loadElf32Image wrappingImage 0 [] 0x200000 s).log,
        e.Sound wrappingImage (frameOf 0x200000) := by
  obtain ⟨s, hs⟩ := execMemory_above2MB
  refine ⟨s, hs, by decide, fun hall => ?_⟩
  have hlog : LoaderEvent.read 0xFFFFFFE0 32 ∈
      (Loader.loadElf32Image wrappingImage 0 [] 0x200000 s).log := by
    rw [Loader.loadElf32Image, if_neg (by decide)]
    refine List.mem_cons_of_mem _ ?_
    rw [if_neg (not_not.2 (by decide : wrappingImage.headerAccepted = true))]
    exact List.mem_cons_of_mem _ (Loader.loadSegments_reads (by decide) 0 s)
  have hread := hall _ hlog
  exact absurd hread (by unfold LoaderEvent.Sound; decide)

/-- An image whose program headers wrap. -/
theorem loadElf32Image_sound_iff_wrapping :
    ∃ s, ExecMemory kernelOf2MB memoryAbove2MB 0x200000 s ∧ wrappingImage.size ≤ execBufferSize ∧
      ((∀ e ∈ (Loader.loadElf32Image wrappingImage 0 [] 0x200000 s).log,
          e.Sound wrappingImage (frameOf 0x200000)) ↔
        ∀ e ∈ (Loader.loadElf32Image wrappingImage 0 [] 0x200000 s).log,
          e.Fine wrappingImage []) := by
  obtain ⟨s, hs⟩ := execMemory_above2MB
  exact ⟨s, hs, by decide, loadElf32Image_sound_iff hs (by decide) 0 []⟩

end NeuroSpark
