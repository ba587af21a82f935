import Mathlib.Data.List.Forall2
import NeuroSpark.Lib.FirstFit
import NeuroSpark.Net.Delivery
import NeuroSpark.Net.Sockets

/-!
# The queues of ports

The table of bindings is a map from ports to queues. An operation on one port leaves the others as
they are. From the time a port is bound until it is unbound its queue gives out the datagrams that
it accepted, in the order in which they came.
-/

namespace NeuroSpark

/-! ### Bindings as a map -/

def udpBinding (s : Net) (port : UInt16) : Option UdpBinding :=
  (udpFindBinding s port).map s.udpBindings

/-- A place of the table serves a port. -/
def UdpBinding.Serves (b : UdpBinding) (port : UInt16) : Prop := b.used = true ∧ b.port = port

/-- As much of a datagram as fits in a buffer. -/
def UdpPacket.cut (packet : UdpPacket) (maxLen : Nat) : UdpPacket :=
  { packet with data := packet.data.take maxLen }

/-- `udp_enqueue_packet` on the binding that it finds. -/
def UdpBinding.offer (b : UdpBinding) (packet : UdpPacket) : UdpBinding × Bool :=
  if packet.data.length > udpMaxPayload then ({ b with dropped := b.dropped + 1 }, false)
  else if h : b.queue.count < 16 then ({ b with queue := b.queue.push packet h }, true)
  else ({ b with dropped := b.dropped + 1 }, false)

/-- `net_udp_recv` on the binding that it finds. -/
def UdpBinding.take (b : UdpBinding) (maxLen : Nat) : UdpBinding × Option UdpPacket :=
  if h : 0 < b.queue.count then
    let pkt := b.queue.slots b.queue.head
    ({ b with queue := b.queue.pop pkt h }, some (pkt.cut maxLen))
  else (b, none)

section

variable {s : Net} {port port' : UInt16} {i : Fin 16} {b : UdpBinding} {packet : UdpPacket}
  {maxLen : Nat}

lemma udpFindBinding_some (h : udpFindBinding s port = some i) : (s.udpBindings i).Serves port := by
  have hmatch := List.find?_some h
  simpa [UdpBinding.Serves] using hmatch

lemma udpFindBinding_none (h : udpFindBinding s port = none) (i : Fin 16) :
    ¬ (s.udpBindings i).Serves port := by
  unfold udpFindBinding at h
  rw [List.find?_eq_none] at h
  simpa [UdpBinding.Serves] using h i (List.mem_finRange i)

lemma udpFindBinding_of_serves {s' : Net}
    (h : ∀ i, (s'.udpBindings i).Serves port ↔ (s.udpBindings i).Serves port) :
    udpFindBinding s' port = udpFindBinding s port := by
  refine FirstFit.find?_congr fun i _ => ?_
  rw [Bool.eq_iff_iff]
  simpa [UdpBinding.Serves] using h i

lemma udpFindBinding_of_only (h : ∀ j, (s.udpBindings j).Serves port ↔ j = i) :
    udpFindBinding s port = some i := by
  cases hfind : udpFindBinding s port with
  | none => exact absurd ((h i).2 rfl) (udpFindBinding_none hfind i)
  | some j => rw [(h j).1 (udpFindBinding_some hfind)]

lemma udpBinding_isSome : (udpBinding s port).isSome = (udpFindBinding s port).isSome := by
  rw [udpBinding, Option.isSome_map]

/-- What is stored at a place that does not serve the port, before or after, does not concern it. -/
lemma udpBinding_setBinding_other (hold : ¬ (s.udpBindings i).Serves port)
    (hnew : ¬ b.Serves port) : udpBinding (s.setBinding i b) port = udpBinding s port := by
  have hfind : udpFindBinding (s.setBinding i b) port = udpFindBinding s port := by
    refine udpFindBinding_of_serves fun j => ?_
    by_cases hji : j = i
    · subst hji
      simp [Net.setBinding, hold, hnew]
    · simp [Net.setBinding, hji]
  unfold udpBinding
  rw [hfind]
  cases hj : udpFindBinding s port with
  | none => rfl
  | some j =>
    have hji : j ≠ i := by
      rintro rfl
      exact hold (udpFindBinding_some hj)
    simp [Net.setBinding, hji]

lemma udpBinding_setBinding_self (hi : udpFindBinding s port = some i) (hnew : b.Serves port) :
    udpBinding (s.setBinding i b) port = some b := by
  have hfind : udpFindBinding (s.setBinding i b) port = udpFindBinding s port := by
    refine udpFindBinding_of_serves fun j => ?_
    by_cases hji : j = i
    · subst hji
      simp [Net.setBinding, hnew, udpFindBinding_some hi]
    · simp [Net.setBinding, hji]
  rw [udpBinding, hfind, hi]
  simp [Net.setBinding]

lemma UdpBinding.Serves.unique (h : b.Serves port) (hne : port' ≠ port) : ¬ b.Serves port' :=
  fun h' => hne (h'.2.symm.trans h.2)

lemma UdpBinding.offer_serves (h : b.Serves port) (packet : UdpPacket) :
    (b.offer packet).1.Serves port := by
  unfold offer
  split_ifs <;> exact h

lemma UdpBinding.take_serves (h : b.Serves port) (maxLen : Nat) :
    (b.take maxLen).1.Serves port := by
  unfold take
  split_ifs <;> exact h

lemma UdpBinding.offer_cases (b : UdpBinding) (packet : UdpPacket) :
    (b.offer packet).2 = true ∧ (b.offer packet).1.queue.toList = b.queue.toList ++ [packet] ∧
        (b.offer packet).1.dropped = b.dropped ∨
      (b.offer packet).2 = false ∧ (b.offer packet).1.queue.toList = b.queue.toList ∧
        (b.offer packet).1.dropped = b.dropped + 1 := by
  unfold offer
  split_ifs
  · exact Or.inr ⟨rfl, rfl, rfl⟩
  · exact Or.inl ⟨rfl, RingBuffer.toList_push .., rfl⟩
  · exact Or.inr ⟨rfl, rfl, rfl⟩

lemma UdpBinding.take_queue (b : UdpBinding) (maxLen : Nat) :
    (b.take maxLen).2 = b.queue.toList.head?.map (·.cut maxLen) ∧
      (b.take maxLen).1.queue.toList = b.queue.toList.tail ∧
      (b.take maxLen).1.dropped = b.dropped := by
  unfold take
  split_ifs with hcount
  · have hpop := RingBuffer.toList_pop b.queue (b.queue.slots b.queue.head) hcount
    rw [hpop]
    exact ⟨rfl, rfl, rfl⟩
  · have hnil : b.queue.toList = [] :=
      (RingBuffer.toList_eq_nil_iff _).2 (Nat.eq_zero_of_not_pos hcount)
    rw [hnil]
    exact ⟨rfl, rfl, rfl⟩

/-! ### Operations on the table -/

lemma udpEnqueuePacket_eq : udpEnqueuePacket s port packet =
    match udpFindBinding s port with
    | none => (s, false)
    | some i => (s.setBinding i ((s.udpBindings i).offer packet).1,
        ((s.udpBindings i).offer packet).2) := by
  unfold udpEnqueuePacket UdpBinding.offer
  cases udpFindBinding s port with
  | none => rfl
  | some i =>
    dsimp only
    split_ifs <;> rfl

lemma netUdpRecv_eq (hmax : 0 < maxLen) : netUdpRecv s port maxLen =
    match udpFindBinding s port with
    | none => (s, none)
    | some i => (s.setBinding i ((s.udpBindings i).take maxLen).1,
        ((s.udpBindings i).take maxLen).2) := by
  unfold netUdpRecv UdpBinding.take
  cases udpFindBinding s port with
  | none => rfl
  | some i =>
    dsimp only
    rw [if_neg hmax.ne']
    split_ifs
    · rfl
    · simp [Net.setBinding]

/-- A change of the slot that serves a port is one of its binding. -/
lemma udpBinding_set (s : Net) (port port' : UInt16) {f : UdpBinding → UdpBinding}
    (hf : ∀ b, b.Serves port → (f b).Serves port) :
    udpBinding (((udpFindBinding s port).map fun i => s.setBinding i (f (s.udpBindings i))).getD s)
        port' =
      if port' = port then (udpBinding s port).map f else udpBinding s port' := by
  cases hi : udpFindBinding s port with
  | none =>
    split_ifs with hport
    · subst hport
      simp [udpBinding, hi]
    · rfl
  | some i =>
    have hserves := udpFindBinding_some hi
    split_ifs with hport
    · subst hport
      rw [Option.map_some, Option.getD_some, udpBinding_setBinding_self hi (hf _ hserves),
        udpBinding, hi]
      rfl
    · exact udpBinding_setBinding_other (hserves.unique hport) ((hf _ hserves).unique hport)

lemma udpBinding_enqueue : udpBinding (udpEnqueuePacket s port packet).1 port' =
    if port' = port then (udpBinding s port).map fun b => (b.offer packet).1
    else udpBinding s port' := by
  rw [udpEnqueuePacket_eq]
  have hset := udpBinding_set s port port' (f := fun b => (b.offer packet).1)
    fun b hb => UdpBinding.offer_serves hb packet
  rw [← hset]
  cases udpFindBinding s port <;> rfl

lemma udpEnqueuePacket_accepted : (udpEnqueuePacket s port packet).2 =
    ((udpBinding s port).map fun b => (b.offer packet).2).getD false := by
  rw [udpEnqueuePacket_eq, udpBinding]
  cases udpFindBinding s port <;> rfl

lemma udpBinding_recv (hmax : 0 < maxLen) : udpBinding (netUdpRecv s port maxLen).1 port' =
    if port' = port then (udpBinding s port).map fun b => (b.take maxLen).1
    else udpBinding s port' := by
  rw [netUdpRecv_eq hmax]
  have hset := udpBinding_set s port port' (f := fun b => (b.take maxLen).1)
    fun b hb => UdpBinding.take_serves hb maxLen
  rw [← hset]
  cases udpFindBinding s port <;> rfl

lemma netUdpRecv_returned (hmax : 0 < maxLen) : (netUdpRecv s port maxLen).2 =
    (udpBinding s port).bind fun b => (b.take maxLen).2 := by
  rw [netUdpRecv_eq hmax, udpBinding]
  cases udpFindBinding s port <;> rfl

lemma udpBinding_bind_other (hne : port' ≠ port) :
    udpBinding (netUdpBind s port).1 port' = udpBinding s port' := by
  unfold netUdpBind udpAllocBinding
  split_ifs
  · rfl
  · cases udpFindBinding s port with
    | some i => rfl
    | none =>
      cases hfree : (List.finRange 16).find? fun i => !(s.udpBindings i).used with
      | none => rfl
      | some i =>
        have hunused : (s.udpBindings i).used = false := by
          simpa using List.find?_some hfree
        refine udpBinding_setBinding_other (fun h => ?_) fun h => hne h.2.symm
        exact absurd (h.1.symm.trans hunused) (by decide)

lemma netUdpBind_of_bound (h : udpBinding s port ≠ none) : (netUdpBind s port).1 = s := by
  rw [udpBinding, Ne, Option.map_eq_none_iff] at h
  obtain ⟨i, hi⟩ := Option.ne_none_iff_exists'.1 h
  unfold netUdpBind udpAllocBinding
  rw [hi]
  split_ifs <;> rfl

lemma netUdpBind_alloc (h : udpFindBinding s port = none) (hbound : (netUdpBind s port).2 = true) :
    ∃ i, (s.udpBindings i).used = false ∧
      (netUdpBind s port).1 = s.setBinding i ⟨true, port, 0, (s.udpBindings i).queue.reset⟩ := by
  unfold netUdpBind udpAllocBinding at hbound ⊢
  simp only [h] at hbound ⊢
  split_ifs at hbound ⊢
  cases hfree : (List.finRange 16).find? fun i => !(s.udpBindings i).used with
  | none =>
    rw [hfree] at hbound
    cases hbound
  | some i => exact ⟨i, by simpa using List.find?_some hfree, rfl⟩

lemma netUdpBind_fresh (h : udpFindBinding s port = none) (hbound : (netUdpBind s port).2 = true) :
    ∃ b, udpBinding (netUdpBind s port).1 port = some b ∧ b.queue.toList = [] ∧ b.dropped = 0 := by
  obtain ⟨i, -, halloc⟩ := netUdpBind_alloc h hbound
  rw [halloc]
  generalize hb : (⟨true, port, 0, (s.udpBindings i).queue.reset⟩ : UdpBinding) = b
  have hserves : b.Serves port := by
    rw [← hb]
    exact ⟨rfl, rfl⟩
  have honly : ∀ j, ((s.setBinding i b).udpBindings j).Serves port ↔ j = i := by
    intro j
    by_cases hji : j = i
    · subst hji
      simp [Net.setBinding, hserves]
    · simp [Net.setBinding, hji, udpFindBinding_none h j]
  refine ⟨b, ?_, by rw [← hb]; rfl, by rw [← hb]⟩
  rw [udpBinding, udpFindBinding_of_only honly]
  simp [Net.setBinding]

lemma udpBinding_unbind_other (hne : port' ≠ port) :
    udpBinding (netUdpUnbind s port) port' = udpBinding s port' := by
  unfold netUdpUnbind
  cases hi : udpFindBinding s port with
  | none => rfl
  | some i =>
    have hserves := udpFindBinding_some hi
    refine udpBinding_setBinding_other (hserves.unique hne) fun h => ?_
    exact Bool.false_ne_true h.1

end

/-! ### Runs -/

/-- What can happen to the table. -/
inductive UdpOp where
  | offer (port : UInt16) (packet : UdpPacket)
  | recv (port : UInt16) (maxLen : Nat)
  | bind (port : UInt16)
  | unbind (port : UInt16)

/-- A receiving operation gives what it returns. -/
def udpStep (s : Net) : UdpOp → Net × Option UdpPacket
  | .offer port packet => ((udpEnqueuePacket s port packet).1, none)
  | .recv port maxLen => netUdpRecv s port maxLen
  | .bind port => ((netUdpBind s port).1, none)
  | .unbind port => (netUdpUnbind s port, none)

/-- The port stays bound, and buffers are not empty. -/
def UdpOp.KeepsBound (port : UInt16) : UdpOp → Prop
  | .offer .. => True
  | .recv _ maxLen => 0 < maxLen
  | .bind _ => True
  | .unbind q => q ≠ port

/-- The datagrams that are offered to a port. -/
def udpOffered (port : UInt16) (_ : Net) : UdpOp → List UdpPacket
  | .offer q packet => if q = port then [packet] else []
  | _ => []

/-- The datagrams that a port accepts. -/
def udpAccepted (port : UInt16) (s : Net) : UdpOp → List UdpPacket
  | .offer q packet => if q = port ∧ (udpEnqueuePacket s q packet).2 then [packet] else []
  | _ => []

/-- The datagrams that are returned from a port, each with the size of the buffer. -/
def udpReturned (port : UInt16) (s : Net) : UdpOp → List (Nat × UdpPacket)
  | .recv q maxLen => if q = port then ((netUdpRecv s q maxLen).2.map (maxLen, ·)).toList else []
  | _ => []

/-- The datagrams that leave the queue of a port, each with the size of the buffer. -/
def udpTaken (port : UInt16) (s : Net) : UdpOp → List (Nat × UdpPacket)
  | .recv q maxLen =>
    if q = port then
      (((udpBinding s port).bind fun b => b.queue.toList.head?).map (maxLen, ·)).toList
    else []
  | _ => []

section

variable {s : Net} {port : UInt16} {b : UdpBinding} {ops : List UdpOp} {op : UdpOp}

/-- What one operation does to a bound port. -/
lemma udpStep_binding (hb : udpBinding s port = some b) (hop : op.KeepsBound port) :
    ∃ b', udpBinding (udpStep s op).1 port = some b' ∧
      b.queue.toList ++ udpAccepted port s op =
        (udpTaken port s op).map Prod.snd ++ b'.queue.toList ∧
      ((udpOffered port s op).length = (udpAccepted port s op).length ∧
          b'.dropped = b.dropped ∨
        (udpOffered port s op).length = (udpAccepted port s op).length + 1 ∧
          b'.dropped = b.dropped + 1) := by
  cases op with
  | offer q packet =>
    by_cases hq : q = port
    · subst hq
      refine ⟨(b.offer packet).1, ?_, ?_⟩
      · change udpBinding (udpEnqueuePacket s q packet).1 q = _
        rw [udpBinding_enqueue, if_pos rfl, hb, Option.map_some]
      · have haccepted : (udpEnqueuePacket s q packet).2 = (b.offer packet).2 := by
          rw [udpEnqueuePacket_accepted, hb]
          rfl
        obtain ⟨hresult, hqueue, hdropped⟩ | ⟨hresult, hqueue, hdropped⟩ := b.offer_cases packet
        · simp [udpAccepted, udpOffered, udpTaken, haccepted, hresult, hqueue, hdropped]
        · simp [udpAccepted, udpOffered, udpTaken, haccepted, hresult, hqueue, hdropped]
    · refine ⟨b, ?_, by simp [udpAccepted, udpTaken, hq], by simp [udpAccepted, udpOffered, hq]⟩
      change udpBinding (udpEnqueuePacket s q packet).1 port = _
      rw [udpBinding_enqueue, if_neg (Ne.symm hq), hb]
  | recv q maxLen =>
    by_cases hq : q = port
    · subst hq
      obtain ⟨-, hqueue, hdropped⟩ := b.take_queue maxLen
      refine ⟨(b.take maxLen).1, ?_, ?_, by simp [udpAccepted, udpOffered, hdropped]⟩
      · change udpBinding (netUdpRecv s q maxLen).1 q = _
        rw [udpBinding_recv hop, if_pos rfl, hb, Option.map_some]
      · rw [hqueue]
        simp only [udpAccepted, udpTaken, hb, if_true, Option.bind_some, List.append_nil]
        cases b.queue.toList <;> rfl
    · refine ⟨b, ?_, by simp [udpAccepted, udpTaken, hq], by simp [udpAccepted, udpOffered]⟩
      change udpBinding (netUdpRecv s q maxLen).1 port = _
      rw [udpBinding_recv hop, if_neg (Ne.symm hq), hb]
  | bind q =>
    refine ⟨b, ?_, by simp [udpAccepted, udpTaken], by simp [udpAccepted, udpOffered]⟩
    change udpBinding (netUdpBind s q).1 port = _
    by_cases hq : port = q
    · subst hq
      rw [netUdpBind_of_bound (by simp [hb]), hb]
    · rw [udpBinding_bind_other hq, hb]
  | unbind q =>
    refine ⟨b, ?_, by simp [udpAccepted, udpTaken], by simp [udpAccepted, udpOffered]⟩
    change udpBinding (netUdpUnbind s q) port = _
    rw [udpBinding_unbind_other (Ne.symm hop), hb]

lemma udpReturned_eq (hop : op.KeepsBound port) :
    udpReturned port s op = (udpTaken port s op).map fun t => (t.1, t.2.cut t.1) := by
  cases op with
  | recv q maxLen =>
    by_cases hq : q = port
    · subst hq
      have hreturned : (netUdpRecv s q maxLen).2 =
          ((udpBinding s q).bind fun b => b.queue.toList.head?).map (·.cut maxLen) := by
        rw [netUdpRecv_returned hop, Option.map_bind]
        exact congrArg _ (funext fun b => (b.take_queue maxLen).1)
      simp only [udpReturned, udpTaken, if_true, hreturned]
      cases (udpBinding s q).bind fun b => b.queue.toList.head? <;> rfl
    · simp [udpReturned, udpTaken, hq]
  | _ => rfl

lemma udpDropped_run (hb : udpBinding s port = some b) (hops : ∀ op ∈ ops, op.KeepsBound port) :
    ∃ b' n, udpBinding (Machine.run udpStep s ops) port = some b' ∧
      (Machine.log (udpOffered port) udpStep s ops).length =
        (Machine.log (udpAccepted port) udpStep s ops).length + n ∧
      b'.dropped = b.dropped + UInt32.ofNat n := by
  induction ops generalizing s b with
  | nil => exact ⟨b, 0, hb, rfl, by simp⟩
  | cons op ops ih =>
    obtain ⟨b₁, hb₁, -, hcount⟩ := udpStep_binding hb (hops op List.mem_cons_self)
    obtain ⟨b', n, hb', hn, hdropped⟩ := ih hb₁ fun op hop => hops op (List.mem_cons_of_mem _ hop)
    simp only [Machine.run_cons, Machine.log_cons, List.length_append]
    obtain ⟨hlen, hsame⟩ | ⟨hlen, hmore⟩ := hcount
    · exact ⟨b', n, hb', by omega, by rw [hdropped, hsame]⟩
    · refine ⟨b', n + 1, hb', by omega, ?_⟩
      rw [hdropped, hmore, UInt32.ofNat_add, UInt32.add_assoc, UInt32.add_comm 1]
      rfl

lemma udpQueued_of_binding (hb : udpBinding s port = some b) :
    udpQueued s port = b.queue.toList := by
  rw [udpBinding, Option.map_eq_some_iff] at hb
  obtain ⟨i, hi, rfl⟩ := hb
  exact udpQueued_of_find hi

lemma udpStep_isSome (hs : (udpBinding s port).isSome = true)
    (hop : op.KeepsBound port) : (udpBinding (udpStep s op).1 port).isSome = true := by
  obtain ⟨b, hb⟩ := Option.isSome_iff_exists.1 hs
  obtain ⟨b', hb', -⟩ := udpStep_binding hb hop
  rw [hb']
  rfl

lemma udpQueue_conserved (hs : (udpBinding s port).isSome = true)
    (hops : ∀ op ∈ ops, op.KeepsBound port) :
    udpQueued s port ++ Machine.log (udpAccepted port) udpStep s ops =
      (Machine.log (udpTaken port) udpStep s ops).map Prod.snd ++
        udpQueued (Machine.run udpStep s ops) port := by
  have hruns : Machine.Runs (fun _ op => UdpOp.KeepsBound port op) udpStep s ops :=
    Machine.Runs.of_forall_mem hops
  have hstep : ∀ s op, (udpBinding s port).isSome = true → UdpOp.KeepsBound port op →
      udpQueued s port ++ udpAccepted port s op =
        (udpTaken port s op).map Prod.snd ++ udpQueued (udpStep s op).1 port := by
    intro s op hs hop
    obtain ⟨b, hb⟩ := Option.isSome_iff_exists.1 hs
    obtain ⟨b', hb', hqueue, -⟩ := udpStep_binding hb hop
    rw [udpQueued_of_binding hb, udpQueued_of_binding hb', hqueue]
  have htaken : Machine.log (fun s op => (udpTaken port s op).map Prod.snd) udpStep s ops =
      (Machine.log (udpTaken port) udpStep s ops).map Prod.snd :=
    Machine.log_map (I := fun s => (udpBinding s port).isSome = true)
      (fun s op => udpStep_isSome) (fun _ _ _ _ => rfl) hs hruns
  rw [← htaken]
  exact Machine.log_conserved (I := fun s => (udpBinding s port).isSome = true)
    (fun s op => udpStep_isSome) hstep hs hruns

lemma udpReturned_run (hops : ∀ op ∈ ops, op.KeepsBound port) :
    Machine.log (udpReturned port) udpStep s ops =
      (Machine.log (udpTaken port) udpStep s ops).map fun t => (t.1, t.2.cut t.1) := by
  have hruns : Machine.Runs (fun _ op => UdpOp.KeepsBound port op) udpStep s ops :=
    Machine.Runs.of_forall_mem hops
  exact Machine.log_map (I := fun _ => True) (fun _ _ _ _ => trivial)
    (fun s op _ hop => udpReturned_eq hop) trivial hruns

/-- The datagrams that a run offers to a port. -/
def offeredTo (port : UInt16) (s : Net) (ops : List UdpOp) : List UdpPacket :=
  Machine.log (udpOffered port) udpStep s ops

/-- The datagrams that a port accepts in a run. -/
def acceptedBy (port : UInt16) (s : Net) (ops : List UdpOp) : List UdpPacket :=
  Machine.log (udpAccepted port) udpStep s ops

/-- The datagrams that a run returns from a port, each with the size of the buffer. -/
def returnedFrom (port : UInt16) (s : Net) (ops : List UdpOp) : List (Nat × UdpPacket) :=
  Machine.log (udpReturned port) udpStep s ops

/-- From the time a port is bound, what is returned from it is what it accepted, in order, up to
what still waits; the ring is one of sixteen slots, and the counter counts, in a word of 32 bits,
the datagrams that were offered and not accepted. -/
theorem udpQueue_fifo {s₀ : Net} (hfresh : udpFindBinding s port = none)
    (hbind : netUdpBind s port = (s₀, true)) {ops : List UdpOp}
    (hops : ∀ op ∈ ops, op.KeepsBound port) :
    ∃ (b : UdpBinding) (taken : List (Nat × UdpPacket)),
      udpBinding (Machine.run udpStep s₀ ops) port = some b ∧
      acceptedBy port s₀ ops = taken.map Prod.snd ++ b.queue.toList ∧
      returnedFrom port s₀ ops = taken.map (fun t => (t.1, t.2.cut t.1)) ∧
      b.queue.count ≤ 16 ∧ b.queue.tail.val = (b.queue.head.val + b.queue.count) % 16 ∧
      ((acceptedBy port s₀ ops).length + b.dropped.toNat) % 4294967296 =
        (offeredTo port s₀ ops).length % 4294967296 ∧
      ((offeredTo port s₀ ops).length < (acceptedBy port s₀ ops).length + 4294967296 →
        (acceptedBy port s₀ ops).length + b.dropped.toNat = (offeredTo port s₀ ops).length) := by
  obtain ⟨b₀, hb₀, hempty, hzero⟩ := netUdpBind_fresh hfresh (congrArg Prod.snd hbind)
  have hs₀ : (netUdpBind s port).1 = s₀ := congrArg Prod.fst hbind
  rw [hs₀] at hb₀
  obtain ⟨b, n, hb, hn, hdropped⟩ := udpDropped_run hb₀ hops
  have hsome : (udpBinding s₀ port).isSome = true := by
    rw [hb₀]
    rfl
  have hqueue := udpQueue_conserved hsome hops
  rw [udpQueued_of_binding hb₀, hempty, List.nil_append, udpQueued_of_binding hb] at hqueue
  have hcounter : b.dropped.toNat = n % 4294967296 := by
    rw [hdropped, hzero, UInt32.zero_add, UInt32.toNat_ofNat']
  refine ⟨b, _, hb, hqueue, udpReturned_run hops, b.queue.count_le, b.queue.tail_eq, ?_, ?_⟩
  · unfold acceptedBy offeredTo
    rw [hn, hcounter]
    omega
  · unfold acceptedBy offeredTo
    intro hlt
    rw [hn] at hlt ⊢
    rw [hcounter]
    omega

/-- A datagram of 1201 bytes. -/
def oversizePacket : UdpPacket := ⟨0x0A000202, 5000, List.replicate 1201 0⟩

lemma oversize_run (port : UInt16) (n : Nat) (s : Net) :
    acceptedBy port s (List.replicate n (.offer port oversizePacket)) = [] ∧
      (offeredTo port s (List.replicate n (.offer port oversizePacket))).length = n := by
  have hlen : oversizePacket.data.length > udpMaxPayload := by
    rw [oversizePacket, List.length_replicate]
    decide
  have hrefused : ∀ s : Net, (udpEnqueuePacket s port oversizePacket).2 = false := by
    intro s
    unfold udpEnqueuePacket
    cases udpFindBinding s port with
    | none => rfl
    | some i =>
      dsimp only
      rw [if_pos hlen]
  induction n generalizing s with
  | zero => exact ⟨rfl, rfl⟩
  | succ n ih =>
    obtain ⟨haccepted, hoffered⟩ := ih (udpStep s (.offer port oversizePacket)).1
    rw [List.replicate_succ]
    unfold acceptedBy offeredTo at *
    simp only [Machine.log_cons, haccepted, List.length_append, hoffered]
    simp [udpAccepted, udpOffered, hrefused, Nat.add_comm]

end

/-- A datagram comes to a port, and a reader takes three bytes of it. -/
theorem udpQueue_fifo_short : ∃ (b : UdpBinding) (taken : List (Nat × UdpPacket)),
    udpBinding (Machine.run udpStep (netUdpBind (Net.booted 0x0A00020F) 9000).1
      [.offer 9000 ⟨0x0A000202, 5000, [1, 2, 3, 4]⟩, .recv 9000 3]) 9000 = some b ∧
    acceptedBy 9000 (netUdpBind (Net.booted 0x0A00020F) 9000).1
      [.offer 9000 ⟨0x0A000202, 5000, [1, 2, 3, 4]⟩, .recv 9000 3] =
        taken.map Prod.snd ++ b.queue.toList := by
  have hbind : netUdpBind (Net.booted 0x0A00020F) 9000 =
      ((netUdpBind (Net.booted 0x0A00020F) 9000).1, true) :=
    Prod.ext rfl (by decide)
  have hops : ∀ op ∈ [UdpOp.offer 9000 ⟨0x0A000202, 5000, [1, 2, 3, 4]⟩, .recv 9000 3],
      op.KeepsBound 9000 := by simp [UdpOp.KeepsBound]
  obtain ⟨b, taken, hb, haccepted, -⟩ := udpQueue_fifo (by decide) hbind hops
  exact ⟨b, taken, hb, haccepted⟩

/-- After 2^32 datagrams that are too long the counter is 0 again. -/
theorem udpDropped_wraps : ∃ (ops : List UdpOp) (b : UdpBinding),
    (∀ op ∈ ops, op.KeepsBound 9000) ∧
    udpFindBinding (Net.booted 0x0A00020F) 9000 = none ∧
    (netUdpBind (Net.booted 0x0A00020F) 9000).2 = true ∧
    udpBinding (Machine.run udpStep (netUdpBind (Net.booted 0x0A00020F) 9000).1 ops) 9000 =
      some b ∧
    (acceptedBy 9000 (netUdpBind (Net.booted 0x0A00020F) 9000).1 ops).length + b.dropped.toNat ≠
      (offeredTo 9000 (netUdpBind (Net.booted 0x0A00020F) 9000).1 ops).length := by
  have hfresh : udpFindBinding (Net.booted 0x0A00020F) 9000 = none := by decide
  have hbind : (netUdpBind (Net.booted 0x0A00020F) 9000).2 = true := by decide
  have hops : ∀ op ∈ List.replicate 4294967296 (UdpOp.offer 9000 oversizePacket),
      op.KeepsBound 9000 := by
    intro op hop
    rw [List.eq_of_mem_replicate hop]
    trivial
  obtain ⟨b₀, hb₀, -, hzero⟩ := netUdpBind_fresh hfresh hbind
  obtain ⟨b, n, hb, hn, hdropped⟩ := udpDropped_run hb₀ hops
  obtain ⟨haccepted, hoffered⟩ :=
    oversize_run 9000 4294967296 (netUdpBind (Net.booted 0x0A00020F) 9000).1
  refine ⟨_, b, hops, hfresh, hbind, hb, ?_⟩
  unfold acceptedBy offeredTo at *
  rw [hoffered, haccepted] at hn
  obtain rfl : n = 4294967296 := by simpa using hn.symm
  rw [hoffered, haccepted, hdropped, hzero]
  decide

end NeuroSpark
