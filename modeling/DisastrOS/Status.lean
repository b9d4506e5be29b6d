import DisastrOS.Consumption
import DisastrOS.Printing
import DisastrOS.Refinement.Reading
import DisastrOS.Report
import DisastrOS.Teardown

/-! What `disastrOS_printStatus` prints.

In every state between two handlers the walks over the lists end, change nothing
and show exactly what is in them, unless the text of a message fills its array.
-/

set_option autoImplicit false

namespace DisastrOS

open Refinement

/-! ## The text of the lists -/

def itemsText (item : Nat → Addr → Text) (between behind : Text) : Nat → List Addr → Bool → Text
  | _, [], _ => []
  | i, x :: xs, more =>
      item i x ++ ((if !xs.isEmpty || more then between else []) ++ behind) ++ itemsText item between behind (i + 1) xs more

theorem itemsText_snoc (item : Nat → Addr → Text) (between behind : Text) (i : Nat) (xs : List Addr) (x : Addr)
    (more : Bool) : itemsText item between behind i (xs ++ [x]) more =
      itemsText item between behind i xs true ++
        (item (i + xs.length) x ++ ((if more then between else []) ++ behind)) := by
  induction xs generalizing i with
  | nil => simp [itemsText]
  | cons y ys ih => simp [itemsText, ih, Nat.add_assoc, Nat.add_comm 1]

def listText (list : Head → List Addr) (item : Nat → Addr → Text) (between behind : Text) (h : Head) : Text :=
  itemsText item between behind 0 (list h) false

theorem itemsText_intercalate (f : Addr → Text) (between behind : Text) (i : Nat) (xs : List Addr) :
    itemsText (fun _ => f) between behind i xs false =
      (between ++ behind).intercalate (xs.map f) ++ if xs.isEmpty then [] else behind := by
  induction xs generalizing i with
  | nil => simp [itemsText]
  | cons x xs ih =>
    cases xs with
    | nil => simp [itemsText]
    | cons y ys =>
      have rest := ih (i + 1)
      simp [itemsText, List.intercalate_cons_cons] at rest ⊢
      rw [rest]

section
variable {list : Head → List Addr} {h : Head}

theorem listText_row (f : Addr → Report) : listText list (fun _ x => (f x).shown) (text ", ") [] h =
    (Report.row ((list h).map f)).shown := by
  have between : Report.shown [.words ", "] = text ", " := by decide
  rw [listText, itemsText_intercalate, Report.row, Report.shown_intercalate, between, List.map_map]
  simp [Function.comp_def]

theorem listText_lines (f : Addr → Report) :
    linesFormat (listText list (fun _ x => text "\t" ++ (f x).shown) (text ",") (text "\n") h) =
      (Report.lines ((list h).map f)).shown := by
  have between : Report.shown [.words ",\n"] = text "," ++ text "\n" := by decide
  have tab : (Piece.words "\t").shown = text "\t" := rfl
  have feed : (Piece.words "\n").shown = text "\n" := rfl
  have opens : (Piece.words "\x7b\n").shown = text "\x7b\n" := rfl
  have closes : (Piece.words "\x7d\n").shown = text "\x7d\n" := rfl
  rw [listText, itemsText_intercalate, linesFormat, Report.lines]
  simp only [Report.shown_cons, Report.shown_append, Report.shown_intercalate, between, opens, closes, List.map_map]
  cases list h <;> simp [Function.comp_def, tab, feed]

theorem listText_numbered (f : Nat → Addr → Report) : listText list (fun i x => (f i x).shown) [] [] h =
    Report.shown ((list h).zipIdx.flatMap fun (x, i) => f i x) := by
  have from_on (i : Nat) (xs : List Addr) : itemsText (fun i x => (f i x).shown) [] [] i xs false =
      Report.shown ((xs.zipIdx i).flatMap fun (x, i) => f i x) := by
    induction xs generalizing i with
    | nil => rfl
    | cons x xs ih => simp [itemsText, ih]
  exact from_on 0 (list h)

theorem listText_plain (f : Addr → Report) : listText list (fun _ x => (f x).shown) [] [] h =
    Report.shown ((list h).flatMap f) := by
  have named : (list h).zipIdx.map (fun x => f x.1) = (list h).map f := by
    rw [show (fun x : Addr × Nat => f x.1) = f ∘ Prod.fst from rfl, ← List.map_map, List.zipIdx_map_fst]
  rw [listText_numbered fun _ => f, List.flatMap_def, List.flatMap_def]
  exact congrArg (fun reports => Report.shown reports.flatten) named

end

/-! ## Messages and descriptors -/

/-- Every descriptor that is allocated names its process, and the bytes of a block of a message that no
message was written to are zero. -/
structure Scene.Written (c : Config) (k : Scene) : Prop where
  pcb : ∀ d, k.Live c d → d.pool = .descriptor → ∃ p, (k.store.descriptor d).pcb = some p
  unused : ∀ x ∈ k.free .message, ∀ i, (k.store.message x).message i = 0
  tail : ∀ x i, (k.store.message x).length.toNat ≤ i → (k.store.message x).message i = 0

section
variable {c : Config} {tag : Tag} {P P' : Phase}

theorem Move.descriptor (move : Move c tag P P') (inv : P.Coherent c) {d : Addr} (alive : P.scene.Live c d) :
    P'.scene.store.descriptor d = P.scene.store.descriptor d := by
  cases move with
  | @openDescriptor k ru go r o d' e resource mq runs des ptr of =>
    have other : d ≠ d' := by
      rintro rfl
      exact (inv.sound.top des).2.2 alive
    simp [Scene.openDescriptor, other]
  | _ =>
    simp [Scene.tick, Scene.enter, Scene.block, Scene.startTimer, Scene.dispatch, Scene.enqueue, Scene.wakeSleeper,
      Scene.rotate, Scene.reparent, Scene.bury, Scene.destroy, Scene.newQueue, Scene.resumeParent, Scene.post,
      Scene.dropDescriptor, Scene.newResource, Scene.finishRead, Scene.finishWrite,
      Scene.wakeWaiter, Scene.wakeWriter, Scene.reap, Scene.vanish, Scene.restart, Scene.newChild]

theorem Move.written (move : Move c tag P P') (inv : P.Coherent c) (written : P.scene.Written c) :
    P'.scene.Written c := by
  have named : ∀ d, P'.scene.Live c d → d.pool = .descriptor → ∃ p, (P'.scene.store.descriptor d).pcb = some p := by
    intro d alive pool
    rcases move.descriptor_born inv pool alive with before | ⟨r, -, linked, -⟩
    · rw [move.descriptor inv before]
      exact written.pcb d before pool
    · exact ⟨r, (move.coherent inv).descriptors.owner linked⟩
  by_cases posts : ∃ q x, tag = .posted q x
  · obtain ⟨q, x, rfl⟩ := posts
    cases move with
    | @post k ru go q x length write_buffer block fits =>
      obtain ⟨rest, free⟩ := List.head?_eq_some_iff.mp block
      have fresh := written.unused x (by rw [free]; exact List.mem_cons_self ..)
      have nodup := inv.sound.free_nodup .message
      rw [free, List.nodup_cons] at nodup
      refine ⟨named, fun y there i => ?_, fun y i beyond => ?_⟩
      · have left : y ∈ rest := by simpa [Scene.post, free] using there
        have other : y ≠ x := by
          rintro rfl
          exact nodup.1 left
        have before := written.unused y (by rw [free]; exact List.mem_cons_of_mem _ left) i
        simpa [Scene.post, other] using before
      · by_cases same : y = x
        · subst same
          have stored : (k.post q y write_buffer length).store.message y =
              ⟨copyIn k.store.memory write_buffer (k.store.message y).message length.toNat, length⟩ := by simp [Scene.post]
          rw [stored] at beyond ⊢
          have past : ¬ i < length.toNat := Nat.not_lt.mpr beyond
          refine (copyIn_apply ..).trans ?_
          rw [if_neg past]
          exact fresh i
        · have kept : (k.post q x write_buffer length).store.message y = k.store.message y := by simp [Scene.post, same]
          rw [kept] at beyond ⊢
          exact written.tail y i beyond
  · have other : ∀ q x, tag ≠ .posted q x := fun q x same => posts ⟨q, x, same⟩
    constructor
    · exact named
    · rw [move.message other, move.free_message other]
      exact written.unused
    · rw [move.message other]
      exact written.tail

end

theorem start_message {c : Constants} {m : Kernel} {pools : Pool → PoolAllocator} {fuel : Nat} {function argument : Int}
    {logfile : Bool} (run : (disastrOS_start function argument logfile).run heap fuel ⟨.zero, .zero, pools⟩ = .done () m)
    (managed : ∀ p, (pools p).buffer = 0 ∧
      (pools p).Manages p.sizeof (c.num_items p) (List.range (c.num_items p))) :
    m.store.message = Store.zero.message := by
  have starts : (Scene.zero c.toConfig).wp c.toConfig fuel (disastrOS_start function argument logfile)
      (fun _ k => k.store.message = Store.zero.message) fun _ => False := by
    have sound := Scene.zero_sound c.toConfig
    have positive := c.positive .pcb
    have top : ((Scene.zero c.toConfig).free .pcb).head? = some (block .pcb 0) := by
      obtain ⟨n, items⟩ : ∃ n, c.num_items .pcb = n + 1 := ⟨c.num_items .pcb - 1, by omega⟩
      simp [Scene.zero, items, List.range_succ_eq_map]
    have fresh := sound.top top
    have unspent : (Scene.zero c.toConfig).store.last_pid ≠ INT_MAX := by
      simp [Scene.zero, Store.zero, INT_MAX]
    simp [disastrOS_start, main_context, PCB_alloc, sound, top, unspent]
    exact ⟨rfl, rfl⟩
  have sat := (Shows.zero c.toConfig managed).sat starts
  rw [run] at sat
  obtain ⟨k, shows, same⟩ := sat
  rw [shows.store, same]

theorem Started.message {c : Constants} {m : Kernel} (started : Started c.toConfig m) :
    m.store.message = Store.zero.message := by
  obtain ⟨ready, function, argument, logfile, fuel, run⟩ := started
  exact start_message run (pools_ready c (fun _ => rfl) ready)

theorem Reachable.written {c : Constants} {m : Kernel} (reach : Reachable c.toConfig m) :
    ∃ k, Shows c.toConfig m k ∧ Coherent c.toConfig k.store.running none k ∧ Counted c.toConfig k ∧
      k.Written c.toConfig := by
  induction reach with
  | start started =>
    obtain ⟨k, shows, fresh⟩ := started.shows
    have zero : k.store.message = Store.zero.message := shows.store ▸ started.message
    refine ⟨k, shows, fresh.running ▸ fresh.coherent, fresh.counted, fun d alive pool => ?_, fun x _ i => ?_,
      fun x i _ => ?_⟩
    · rw [(fresh.live d).mp alive] at pool
      cases pool
    · rw [zero]
      rfl
    · rw [zero]
      rfl
  | step _ step ih =>
    obtain ⟨k, shows, inv, counted, written⟩ := ih
    obtain ⟨k', shows', reacts⟩ := step.reacts shows inv
    obtain ⟨inv', written'⟩ := (reacts.chain inv counted).keeps (J := fun P => P.scene.Written c.toConfig) inv
      (fun _ inv' move holds => move.written inv' holds) written
    exact ⟨k', shows', inv', reacts.counted inv counted, written'⟩

/-! ## What the code prints -/

def Scene.Prints (c : Config) (fuel : Nat) (E : Option Stop → Prop) (k : Scene) (code : Code Text) (shown : Text)
    (fine : Prop) : Prop := k.wp c fuel code (fun printed k' => k' = k ∧ printed = shown ∧ fine) E

section
variable {c : Config} {fuel : Nat} {k : Scene} {E : Option Stop → Prop} {code : Code Text} {shown : Text} {fine : Prop}

theorem Scene.Prints.then {α : Type} {f : Text → Code α} {Q : α → Scene → Prop} (prints : k.Prints c fuel E code shown fine)
    (rest : fine → k.wp c fuel (f shown) Q E) : k.wp c fuel (code >>= f) Q E := by
  rw [Scene.wp_bind]
  apply Scene.wp_mono prints
  · rintro printed k' _ ⟨rfl, rfl, good⟩
    exact rest good
  · exact fun _ => id

theorem Scene.prints_list {h : Head} {item : Nat → Addr → Code Text} {shown : Nat → Addr → Text} {fine : Addr → Prop}
    {between behind : Text} (enough : (blocks c).card < fuel)
    (each : ∀ i x, k.place x = .linked h → k.Prints c fuel E (item i x) (shown i x) (fine x)) :
    k.Prints c fuel E (List_print h item between behind) (listText k.seq shown between behind h)
      (∀ x ∈ k.seq h, fine x) := by
  unfold Scene.Prints List_print
  simp only [Scene.wp_bind, Scene.wp_first, Scene.sound_wp]
  apply Scene.wp_scan fine enough
    (fun seen rest => (rest.head?, seen.length, itemsText shown between behind 0 seen (!rest.isEmpty)))
  · intro seen whole good
    simp only [List.head?_nil, Scene.wp_pure]
    rintro -
    refine ⟨trivial, ?_, whole ▸ good⟩
    rw [listText, ← whole]
    rfl
  · intro seen x rest split good
    simp only [List.head?_cons]
    rw [← Scene.sound_wp]
    intro sound
    have linked := Scene.linked_seen sound split
    apply (each seen.length x linked).then
    intro here
    rw [Scene.wp_bind, Scene.wp_next linked]
    intro _
    rw [Scene.wp_pure, Scene.after_seen sound split]
    rintro -
    refine ⟨here, ?_, rfl⟩
    -- what follows decides whether something stands between
    rw [itemsText_snoc]
    cases rest <;> simp

theorem Scene.prints_pids {h : Head} {format : Int → Text} {between : Text} (enough : (blocks c).card < fuel)
    (names : ∀ e, k.place e = .linked h → ∃ p, k.store.pcb_ptr e = some p) :
    k.Prints c fuel E (List_print h (fun _ e => do return format (← PCBPtr_pid e)) between [])
      (listText k.seq (fun _ e => format (Report.pidOf k.store (k.store.pcb_ptr e))) between [] h)
      (∀ x ∈ k.seq h, True) := by
  apply Scene.prints_list enough
  intro i e linked
  obtain ⟨p, named⟩ := names e linked
  simp [Scene.Prints, PCBPtr_pid, named, Report.pidOf]

variable {runner gone : Pointer}

theorem PCBPtrList_prints (inv : Coherent c runner gone k) (enough : (blocks c).card < fuel) (p : Addr) :
    k.Prints c fuel E (PCBPtrList_print (.children p))
      (text "(" ++ (Report.row ((k.seq (.children p)).map fun e =>
        [.number (Report.pidOf k.store (k.store.pcb_ptr e))])).shown ++ text ")") True := by
  have names : ∀ e, k.place e = .linked (.children p) → ∃ p', k.store.pcb_ptr e = some p' := by
    intro e linked
    obtain ⟨⟨p', names, -⟩, -⟩ := inv.tree.entry linked
    exact ⟨p', names⟩
  apply (Scene.prints_pids enough names).then
  rw [← listText_row]
  simp [Piece.shown, decimal, text]

theorem PCB_prints (inv : Coherent c runner gone k) (enough : (blocks c).card < fuel) (p : Addr) :
    k.Prints c fuel E (PCB_print p) (Report.process k.seq k.store p).shown True := by
  have before : (Piece.words ", child: (").shown = text ", child: " ++ text "(" := by decide
  have behind : (Piece.words ")]").shown = text ")" ++ text "]" := by decide
  unfold Scene.Prints PCB_print
  rw [Scene.wp_bind, Scene.wp_get]
  rintro -
  apply (PCBPtrList_prints inv enough p).then
  intro _
  rw [Scene.wp_pure]
  refine fun _ => ⟨rfl, ?_, trivial⟩
  simp only [Report.process, Report.shown_append, Report.shown_cons, Report.shown_nil, before, behind]
  simp [pcbFormat, Piece.shown, text, decimal]

theorem Scene.prints_lines {h : Head} {item : Addr → Code Text} {report : Addr → Report} {fine : Addr → Prop}
    (enough : (blocks c).card < fuel)
    (each : ∀ x, k.place x = .linked h → k.Prints c fuel E (item x) (report x).shown (fine x)) :
    k.Prints c fuel E
      (List_print h (fun _ x => do return text "\t" ++ (← item x)) (text ",") (text "\n") >>= fun items =>
        pure (linesFormat items))
      (Report.lines ((k.seq h).map report)).shown (∀ x ∈ k.seq h, fine x) := by
  have lines : ∀ (i : Nat) x, k.place x = .linked h →
      k.Prints c fuel E (do return text "\t" ++ (← item x)) (text "\t" ++ (report x).shown) (fine x) := by
    intro i x linked
    apply (each x linked).then
    intro here
    simp [here]
  apply (Scene.prints_list enough lines).then
  intro all
  rw [listText_lines]
  simpa using fun _ => all

theorem PCBList_prints (inv : Coherent c runner gone k) (enough : (blocks c).card < fuel) (h : Head) :
    k.Prints c fuel E (PCBList_print h) (Report.processes k.seq k.store h).shown True := by
  apply Scene.wp_mono (Scene.prints_lines enough fun p _ => PCB_prints inv enough p)
  · rintro printed k' - ⟨same, shown, -⟩
    exact ⟨same, shown, trivial⟩
  · exact fun _ => id

theorem TimerList_prints (inv : Coherent c runner gone k) (enough : (blocks c).card < fuel) :
    k.Prints c fuel E (TimerList_print .timer_list) (Report.timers k.seq k.store).shown True := by
  have each : ∀ (i : Nat) t, k.place t = .linked .timer_list → k.Prints c fuel E (do
      let aux ← get fun s => s.timer_item t
      let pcb ← deref .pcb aux.pcb
      let pid ← get fun s => (s.pcb pcb).pid
      return timerFormat pid aux.awakening_time)
      (Report.shown [.words "(pid:", .number (Report.pidOf k.store (k.store.timer_item t).pcb), .words ", t:",
        .number (k.store.timer_item t).awakening_time, .words ")"]) True := by
    intro i t linked
    obtain ⟨p, owns, -⟩ := inv.timers.owner linked
    simp [Scene.Prints, owns, Report.pidOf, timerFormat, Piece.shown, text, decimal]
  apply (Scene.prints_list enough each).then
  intro _
  rw [listText_row]
  simp [Report.timers, Piece.shown, text]

theorem DescriptorPtrs_prints {object : Pool} {which : Descriptor → Pointer} {id : Store → Addr → Int}
    {format : Int → Int → Int → Text} {o : Addr} (user : Int → Int → Report) (inv : Coherent c runner gone k)
    (written : k.Written c) (enough : (blocks c).card < fuel)
    (of : ∀ d, k.Of d o → which (k.store.descriptor d) = some o)
    (formats : ∀ fd pid, format fd pid (id k.store o) = (user fd pid).shown) :
    k.Prints c fuel E (DescriptorPtrs_print object which id format (.descriptors_ptrs o))
      (Report.users k.seq k.store user o).shown True := by
  have each : ∀ (i : Nat) e, k.place e = .linked (.descriptors_ptrs o) → k.Prints c fuel E (do
      let d ← deref .descriptor (← get fun s => s.descriptor_ptr e)
      let des ← get fun s => s.descriptor d
      let pcb ← deref .pcb des.pcb
      let o ← deref object (which des)
      let pid ← get fun s => (s.pcb pcb).pid
      let id ← get fun s => id s o
      return format des.fd pid id)
      (Report.shown ((k.store.descriptor_ptr e).elim [] fun d =>
        user (k.store.descriptor d).fd (Report.pidOf k.store (k.store.descriptor d).pcb))) True := by
    intro i e linked
    obtain ⟨d, names, ptr, alive, pool⟩ := inv.descriptors.ptr (inv.sound.live linked) (inv.sound.kind linked)
    obtain ⟨e', o', ptr', -, linked', of'⟩ := inv.descriptors.des alive pool
    cases ptr.symm.trans ptr'
    cases linked.symm.trans linked'
    obtain ⟨p, owner⟩ := written.pcb d alive pool
    simp [Scene.Prints, names, owner, of d of', Report.pidOf, formats]
  apply (Scene.prints_list enough each).then
  intro _
  rw [listText_row]
  simp [Report.users, Piece.shown, text]

theorem ResourceList_prints (inv : Coherent c runner gone k) (written : k.Written c) (enough : (blocks c).card < fuel) :
    k.Prints c fuel E (ResourceList_print .resources_list)
      (Report.lines ((k.seq .resources_list).map (Report.resource k.seq k.store))).shown True := by
  have each : ∀ x, k.place x = .linked .resources_list →
      k.Prints c fuel E (Resource_print x) (Report.resource k.seq k.store x).shown True := by
    intro x listed
    have of : ∀ d, k.Of d x → (k.store.descriptor d).resource = some x := by
      rintro d (⟨-, -, there⟩ | ⟨-, names, -⟩)
      · cases listed.symm.trans there
      · exact names
    unfold Scene.Prints Resource_print
    rw [Scene.wp_bind, Scene.wp_get]
    rintro -
    apply (DescriptorPtrs_prints (fun fd pid => [.words "(pid: ", .number fd, .words ", fd: ", .number pid,
      .words ", rid:", .number (k.store.resource x).id, .words ")"]) inv written enough of fun fd pid => ?_).then
    · intro _
      simp [Report.resource, resourceFormat, Piece.shown, text, decimal]
    · simp [resourcePtrFormat, Piece.shown, text, decimal]
  apply Scene.wp_mono (Scene.prints_lines enough each)
  · rintro printed k' - ⟨same, shown, -⟩
    exact ⟨same, shown, trivial⟩
  · exact fun _ => id

/-- There is a NUL in the array of the message. -/
def Terminated (c : Config) (message : Nat → UInt8) : Prop := ∃ i < c.MAX_LEN_MESSAGE, message i = 0

theorem length_beforeNul {n : Nat} {array : Nat → UInt8} :
    (beforeNul n array).length < n ↔ ∃ i < n, array i = 0 := by
  constructor
  · intro short
    by_contra none
    have whole : beforeNul n array = (List.range n).map array := by
      apply List.takeWhile_eq_self_iff.mpr
      intro b member
      obtain ⟨i, small, rfl⟩ := List.mem_map.mp member
      have other : array i ≠ 0 := fun zero => none ⟨i, List.mem_range.mp small, zero⟩
      simpa using other
    simp [whole] at short
  · rintro ⟨i, small, zero⟩
    by_contra long
    have whole : beforeNul n array = (List.range n).map array := by
      apply (List.takeWhile_prefix _).eq_of_length_le
      simpa [beforeNul] using long
    have passes : array i ∈ beforeNul n array := by
      rw [whole]
      exact List.mem_map_of_mem (List.mem_range.mpr small)
    simpa [zero] using List.mem_takeWhile_imp passes

theorem Message.beforeNul_eq {n : Nat} {m : Message} (fits : m.length.toNat ≤ n)
    (tail : ∀ i, m.length.toNat ≤ i → m.message i = 0) : beforeNul n m.message = m.string := by
  obtain ⟨d, rfl⟩ := Nat.exists_eq_add_of_le fits
  have zeros : ((List.range d).map fun i => m.message (m.length.toNat + i)).takeWhile (· ≠ 0) = [] := by
    cases d with
    | zero => rfl
    | succ d => simp [List.range_succ_eq_map, tail]
  rw [beforeNul, Message.string, List.range_add, List.map_append, List.map_map, List.takeWhile_append]
  split
  next whole =>
    have all := (List.takeWhile_prefix (p := (· ≠ 0)) (l := (List.range m.length.toNat).map m.message)).eq_of_length whole
    rw [Function.comp_def, zeros, List.append_nil, all]
  next => rfl

/-- What goes wrong is an array without a NUL. -/
theorem message_prints {x q : Addr} {i : Nat} (inv : Coherent c runner gone k) (written : k.Written c)
    (linked : k.place x = .linked (.messages q))
    (overruns : ¬ Terminated c (k.store.message x).message → E (some .outOfBounds)) :
    k.Prints c fuel E (do
      let message ← get fun s => (s.message x).message
      return messageFormat i (← message_string c message))
      (Report.shown [.words "        - messaggio ", .number i, .words ": ", .bytes (k.store.message x).string,
        .words " \n"])
      (Terminated c (k.store.message x).message) := by
  have bound := inv.queues.bounded linked
  have same : beforeNul c.MAX_LEN_MESSAGE (k.store.message x).message = (k.store.message x).string :=
    Message.beforeNul_eq (by omega) (written.tail x)
  unfold Scene.Prints message_string
  simp only [Scene.wp_bind, Scene.wp_get, Scene.wp_ite]
  rintro -
  by_cases ends : Terminated c (k.store.message x).message
  · have short := length_beforeNul.mpr ends
    rw [same] at short
    simp [same, short, ends, messageFormat, Piece.shown, text, decimal]
  · have long : ¬ (beforeNul c.MAX_LEN_MESSAGE (k.store.message x).message).length < c.MAX_LEN_MESSAGE :=
      fun short => ends (length_beforeNul.mp short)
    simp [long, overruns ends]

theorem waiters_text {h : Head} (format : Int → Text) (absent before : String)
    (formats : ∀ pid, format pid = Report.shown [.words before, .number pid, .words "\n"]) :
    (if (k.seq h).isEmpty then text absent else []) ++
        listText k.seq (fun _ w => format (Report.pidOf k.store (k.store.pcb_ptr w))) [] [] h =
      Report.shown (if k.seq h = [] then [.words absent] else Report.waiters k.seq k.store before h) := by
  simp only [formats]
  rw [listText_plain, ← Report.waiters]
  cases empty : k.seq h with
  | nil => simp [Report.waiters, empty, Piece.shown, text]
  | cons w ws => simp

theorem MessageQueue_prints {q : Addr} (inv : Coherent c runner gone k) (written : k.Written c)
    (enough : (blocks c).card < fuel) (listed : k.place q = .linked .mq_list)
    (overruns : ∀ x ∈ k.seq (.messages q), ¬ Terminated c (k.store.message x).message → E (some .outOfBounds)) :
    k.Prints c fuel E (MessageQueue_print c q) (Report.queue k.seq k.store q).shown
      (∀ x ∈ k.seq (.messages q), Terminated c (k.store.message x).message) := by
  have of : ∀ d, k.Of d q → (k.store.descriptor d).mq = some q := by
    rintro d (⟨names, -, -⟩ | ⟨-, -, there⟩)
    · exact names
    · cases listed.symm.trans there
  have head : ∀ h, (k.seq h).head?.isNone = (k.seq h).isEmpty := fun h => by cases k.seq h <;> rfl
  unfold Scene.Prints MessageQueue_print
  rw [Scene.wp_bind, Scene.wp_get]
  rintro -
  -- the formats of the code against the pieces of the report, one at a time
  have formats : ∀ fd pid, mqPtrFormat fd pid (k.store.mq q).id = Report.shown [.words "(fd: ", .number fd,
      .words ", pid: ", .number pid, .words ", mqid:", .number (k.store.mq q).id, .words ")"] := fun fd pid => by
    simp [mqPtrFormat, Piece.shown, text, decimal]
  apply (DescriptorPtrs_prints _ inv written enough of formats).then
  intro _
  rw [Scene.wp_bind, Scene.wp_first]
  rintro -
  have each : ∀ (i : Nat) x, k.place x = .linked (.messages q) → k.Prints c fuel E (do
      let message ← get fun s => (s.message x).message
      return messageFormat i (← message_string c message))
      (Report.shown [.words "        - messaggio ", .number i, .words ": ", .bytes (k.store.message x).string,
        .words " \n"])
      (Terminated c (k.store.message x).message) := by
    intro i x linked
    exact message_prints inv written linked (overruns x (inv.sound.mem_seq.mpr linked))
  apply (Scene.prints_list enough each).then
  intro all
  rw [Scene.wp_bind, Scene.wp_first]
  rintro -
  rw [Scene.wp_bind, Scene.wp_first]
  rintro -
  apply (Scene.prints_pids enough fun w linked => ?_).then
  · intro _
    apply (Scene.prints_pids enough fun w linked => ?_).then
    · intro _
      -- all lists have been read, what is left is the text
      rw [Scene.wp_pure, head, head, head]
      refine fun _ => ⟨rfl, ?_, all⟩
      have readers := waiters_text (k := k) (h := .waiting_to_read q) readerFormat
        "        Non c'è nessun reader in attesa nella mq\n" "        Un reader in attesa ha pid: "
        (fun pid => by simp [readerFormat, Piece.shown, text, decimal])
      have writers := waiters_text (k := k) (h := .waiting_to_write q) writerFormat
        "        Non c'è nessun writer in attesa nella mq\n" "        Un writer in attesa ha pid: "
        (fun pid => by simp [writerFormat, Piece.shown, text, decimal])
      rw [listText_numbered fun i x => [.words "        - messaggio ", .number i, .words ": ",
        .bytes (k.store.message x).string, .words " \n"], ← Report.messages]
      simp only [mqFormat, Report.queue, Report.shown_append, ← readers, ← writers]
      cases k.seq (.messages q) <;> simp [Piece.shown, text, decimal]
    · obtain ⟨p, names, -⟩ := inv.waiters.writer linked
      exact ⟨p, names⟩
  · obtain ⟨p, names, -⟩ := inv.waiters.reader linked
    exact ⟨p, names⟩

theorem MessageQueueList_prints (inv : Coherent c runner gone k) (written : k.Written c)
    (enough : (blocks c).card < fuel)
    (overruns : ∀ q ∈ k.seq .mq_list, ∀ x ∈ k.seq (.messages q), ¬ Terminated c (k.store.message x).message →
      E (some .outOfBounds)) :
    k.Prints c fuel E (MessageQueueList_print c .mq_list)
      (Report.lines ((k.seq .mq_list).map (Report.queue k.seq k.store))).shown
      (∀ q ∈ k.seq .mq_list, ∀ x ∈ k.seq (.messages q), Terminated c (k.store.message x).message) :=
  Scene.prints_lines enough fun q listed =>
    MessageQueue_prints inv written enough listed (overruns q (inv.sound.mem_seq.mpr listed))

theorem disastrOS_printStatus_prints (inv : Coherent c runner gone k) (written : k.Written c)
    (enough : (blocks c).card < fuel)
    (overruns : ∀ q ∈ k.seq .mq_list, ∀ x ∈ k.seq (.messages q), ¬ Terminated c (k.store.message x).message →
      E (some .outOfBounds)) :
    k.Prints c fuel E (disastrOS_printStatus c) (Report.status k.seq k.store).shown
      (∀ q ∈ k.seq .mq_list, ∀ x ∈ k.seq (.messages q), Terminated c (k.store.message x).message) := by
  have running : k.Prints c fuel E (k.store.running.elim (pure []) PCB_print)
      (Report.shown (k.store.running.elim [] (Report.process k.seq k.store))) True := by
    cases k.store.running with
    | none => simp [Scene.Prints]
    | some r => exact PCB_prints inv enough r
  unfold Scene.Prints disastrOS_printStatus
  rw [Scene.wp_bind, Scene.wp_get]
  rintro -
  apply running.then
  intro _
  apply (TimerList_prints inv enough).then
  intro _
  apply (ResourceList_prints inv written enough).then
  intro _
  apply (MessageQueueList_prints inv written enough overruns).then
  intro terminated
  apply (PCBList_prints inv enough .ready_list).then
  intro _
  apply (PCBList_prints inv enough .waiting_list).then
  intro _
  apply (PCBList_prints inv enough .zombie_list).then
  intro _
  refine fun _ => ⟨rfl, ?_, terminated⟩
  -- two lines of the code stand in one piece of the report
  have title : (Piece.words "\n****************** DisastrOS ******************\nRunning: ").shown =
      text "\n****************** DisastrOS ******************\n" ++ text "Running: " := by decide
  have timers : (Piece.words "\nTimers: ").shown = text "\n" ++ text "Timers: " := by decide
  simp only [Report.status, statusFormat, Report.shown_append, Report.shown_cons, Report.shown_nil, title, timers]
  simp [Piece.shown, text]

end

/-! ## It only reads -/

def Op.Quiet : (β : Type) → Op β → Prop
  | _, .first _ | _, .last _ | _, .size _ | _, .next _ => True
  | _, _ => False

theorem heap_still : heap.Still Op.Quiet := by
  intro β op data data' value quiet answer
  cases op with
  | first | last | size | next =>
    cases answer
    rfl
  | clear | init | insert | detach | getBlock | releaseBlock => exact quiet.elim

/-- Code that neither updates the store nor moves a block. -/
abbrev ReadOnly {α : Type} (code : Code α) : Prop := code.Reads Op.Quiet α

theorem deref_reads {object : Pool} {p : Pointer} : ReadOnly (deref object p) := by
  cases p with
  | none => exact .fail _
  | some x => exact .ret x

theorem then_reads {α β : Type} {code : Code α} {f : α → β} (reads : ReadOnly code) :
    ReadOnly (code >>= fun value => pure (f value)) := reads.bind fun _ => .ret _

theorem List_print_reads {h : Head} {item : Nat → Addr → Code Text} {between behind : Text}
    (each : ∀ i x, ReadOnly (item i x)) : ReadOnly (List_print h item between behind) := by
  unfold List_print
  apply Program.Reads.bind (.perform trivial)
  intro aux
  apply Program.Reads.iterate
  rintro ⟨aux, i, printed⟩
  cases aux with
  | none => exact .ret _
  | some x =>
    apply Program.Reads.bind (each i x)
    intro shown
    exact then_reads (.perform trivial)

theorem PCBPtr_pid_reads (e : Addr) : ReadOnly (PCBPtr_pid e) := by
  apply Program.Reads.bind (.get _)
  intro p
  exact deref_reads.bind fun pcb => .get _

theorem PCB_print_reads (p : Addr) : ReadOnly (PCB_print p) := by
  apply Program.Reads.bind (.get _)
  intro pid
  have children : ReadOnly (PCBPtrList_print (.children p)) :=
    then_reads (List_print_reads fun _ e => then_reads (PCBPtr_pid_reads e))
  exact then_reads children

theorem PCBList_print_reads (h : Head) : ReadOnly (PCBList_print h) :=
  then_reads (List_print_reads fun _ p => then_reads (PCB_print_reads p))

theorem TimerList_print_reads (h : Head) : ReadOnly (TimerList_print h) := by
  apply then_reads
  apply List_print_reads
  intro i t
  apply Program.Reads.bind (.get _)
  intro aux
  exact deref_reads.bind fun pcb => then_reads (.get _)

theorem DescriptorPtrs_print_reads {object : Pool} {which : Descriptor → Pointer} {id : Store → Addr → Int}
    {format : Int → Int → Int → Text} (h : Head) : ReadOnly (DescriptorPtrs_print object which id format h) := by
  apply then_reads
  apply List_print_reads
  intro i e
  apply Program.Reads.bind (.get _)
  intro d
  apply deref_reads.bind
  intro d
  apply Program.Reads.bind (.get _)
  intro des
  exact deref_reads.bind fun pcb => deref_reads.bind fun o => .bind (.get _) fun pid => then_reads (.get _)

theorem ResourceList_print_reads (h : Head) : ReadOnly (ResourceList_print h) := by
  apply then_reads
  apply List_print_reads
  intro i x
  apply then_reads
  apply Program.Reads.bind (.get _)
  exact fun resource => then_reads (DescriptorPtrs_print_reads _)

theorem message_string_reads (c : Config) (message : Nat → UInt8) : ReadOnly (message_string c message) := by
  unfold message_string
  split
  · exact .ret _
  · exact .fail _

theorem MessageQueue_print_reads (c : Config) (q : Addr) : ReadOnly (MessageQueue_print c q) := by
  have pids {format : Int → Text} (h : Head) :
      ReadOnly (List_print h (fun _ w => do return format (← PCBPtr_pid w)) [] []) :=
    List_print_reads fun _ w => then_reads (PCBPtr_pid_reads w)
  apply Program.Reads.bind (.get _)
  intro mq
  apply Program.Reads.bind (DescriptorPtrs_print_reads _)
  intro descriptors
  apply Program.Reads.bind (.perform trivial)
  intro m
  apply Program.Reads.bind
  · apply List_print_reads
    intro i x
    exact .bind (.get _) fun message => then_reads (message_string_reads c message)
  intro messages
  apply Program.Reads.bind (.perform trivial)
  intro waiting_to_read
  apply Program.Reads.bind (.perform trivial)
  intro waiting_to_write
  exact (pids _).bind fun readers => then_reads (pids _)

theorem disastrOS_printStatus_reads (c : Config) : ReadOnly (disastrOS_printStatus c) := by
  apply Program.Reads.bind (.get _)
  intro running
  apply Program.Reads.bind
  · cases running with
    | none => exact .ret _
    | some r => exact PCB_print_reads r
  intro shown
  apply (TimerList_print_reads _).bind
  intro timers
  apply (ResourceList_print_reads _).bind
  intro resources
  have queues : ReadOnly (MessageQueueList_print c .mq_list) :=
    then_reads (List_print_reads fun _ q => then_reads (MessageQueue_print_reads c q))
  apply queues.bind
  intro mqs
  exact (PCBList_print_reads _).bind fun ready => (PCBList_print_reads _).bind fun waiting =>
    then_reads (PCBList_print_reads _)

/-! ## The status of a reachable state -/

/-- The text of every message that is queued ends inside its array: the message is shorter, or contains a NUL. -/
def Kernel.Printable (c : Config) (m : Kernel) : Prop :=
  ∀ q ∈ m.list .mq_list, ∀ x ∈ m.list (.messages q),
    (m.store.message x).length.toNat < c.MAX_LEN_MESSAGE ∨ Terminated c (m.store.message x).message

instance (c : Config) (m : Kernel) : Decidable (m.Printable c) :=
  inferInstanceAs (Decidable (∀ q ∈ m.list .mq_list, ∀ x ∈ m.list (.messages q),
    (m.store.message x).length.toNat < c.MAX_LEN_MESSAGE ∨ ∃ i < c.MAX_LEN_MESSAGE, (m.store.message x).message i = 0))

/-- What comes of `disastrOS_printStatus`. -/
structure StatusShown (c : Config) (m : Kernel) : Prop where
  prints : m.Printable c →
    ∃ fuel, (disastrOS_printStatus c).run heap fuel m = .done (Report.status m.list m.store).shown m
  overruns : ¬ m.Printable c → ∃ fuel, (disastrOS_printStatus c).run heap fuel m = .fault .outOfBounds

/-- In every reachable state `disastrOS_printStatus` shows the lists as they are and leaves the state as it is,
and it reads past the array of a message exactly if one is queued that fills it without a NUL. -/
theorem status_shown (c : Constants) {m : Kernel} (reach : Reachable c.toConfig m) : StatusShown c.toConfig m := by
  obtain ⟨k, shows, inv, -, written⟩ := reach.written
  have list : m.list = k.seq := funext shows.list
  have printable : m.Printable c.toConfig ↔
      ∀ q ∈ k.seq .mq_list, ∀ x ∈ k.seq (.messages q), Terminated c.toConfig (k.store.message x).message := by
    unfold Kernel.Printable
    rw [list, shows.store]
    constructor
    · intro all q listed x queued
      rcases all q listed x queued with short | ends
      · exact ⟨_, short, written.tail x _ (le_refl _)⟩
      · exact ends
    · exact fun all q listed x queued => .inr (all q listed x queued)
  have prints := disastrOS_printStatus_prints (E := fun stop => stop = some .outOfBounds ∧ ¬ m.Printable c.toConfig)
    inv written (Nat.lt_succ_self _) fun q listed x queued overrun =>
      ⟨rfl, fun all => overrun (printable.mp all q listed x queued)⟩
  have sat := shows.sat prints
  cases run : (disastrOS_printStatus c.toConfig).run heap ((blocks c.toConfig).card + 1) m with
  | done printed m' =>
    rw [run] at sat
    obtain ⟨k', -, rfl, same, ends⟩ := sat
    have still := (disastrOS_printStatus_reads c.toConfig).run heap_still run
    refine ⟨fun _ => ⟨(blocks c.toConfig).card + 1, ?_⟩, fun overrun => absurd (printable.mpr ends) overrun⟩
    rw [run, still, same, list, shows.store]
  | fault stop =>
    rw [run] at sat
    obtain ⟨same, overrun⟩ := sat
    cases same
    exact ⟨fun all => absurd all overrun, fun _ => ⟨_, run⟩⟩
  | undefined =>
    rw [run] at sat
    exact sat.elim
  | exhausted =>
    rw [run] at sat
    cases sat.1

def short_status : List UInt8 :=
  "\n****************** DisastrOS ******************\nRunning: [pid: 1, child: ()]
Timers: []
Resources: \x7b\n\x7d\n
Message Queues: \x7b
\tmq di id: 5, contiene 1 messaggi, i suoi valori sono:[(fd: 0, pid: 0, mqid:5)]

        Lista dei messaggi contenuti nella MQ:
        - messaggio 0: abc \n
        Non c'è nessun reader in attesa nella mq
        Non c'è nessun writer in attesa nella mq

\x7d\n
Ready: \x7b\n\t[pid: 0, child: (1)]\n\x7d\n
Waiting: \x7b\n\x7d\n
Zombie: \x7b\n\x7d\n
***********************************************\n\n".toUTF8.data.toList

def short_message : Observed always fun m => m.Printable constants.toConfig ∧
    (Report.status m.list m.store).shown = short_status :=
  observe always [.user fun address => UInt8.ofNat (address.toNat - 3), .syscall DSOS_CALL_OPEN_MQ (arguments [5, 1]),
    .syscall DSOS_CALL_WRITE_MQ (arguments [5, 100, 3]), .syscall DSOS_CALL_SPAWN (arguments [1, 2]), .tick]
    (by decide +kernel)

/-- The first process has filled its memory with ones and written a message as long as it can be. -/
def full_message : Observed always fun m => ¬ m.Printable constants.toConfig :=
  observe always [.user fun _ => 1, .syscall DSOS_CALL_OPEN_MQ (arguments [5, 1]),
    .syscall DSOS_CALL_WRITE_MQ (arguments [5, 100, 64])] (by decide +kernel)

theorem status_shown_message : (∃ m, Reachable constants.toConfig m ∧
      ∃ fuel, (disastrOS_printStatus constants.toConfig).run heap fuel m = .done short_status m) ∧
    ∃ m, Reachable constants.toConfig m ∧
      ∃ fuel, (disastrOS_printStatus constants.toConfig).run heap fuel m = .fault .outOfBounds := by
  obtain ⟨m, reached, printable, shown⟩ := short_message
  obtain ⟨m', reached', overrun⟩ := full_message
  refine ⟨⟨m, reached.reachable, ?_⟩, m', reached'.reachable, (status_shown constants reached'.reachable).overruns overrun⟩
  rw [← shown]
  exact (status_shown constants reached.reachable).prints printable

end DisastrOS
