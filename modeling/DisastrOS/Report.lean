import DisastrOS.Kernel

/-! What the status of the kernel has to tell.

A report is made of the lists and the records alone. The code that prints it,
its loops and its formats have no part in it.
-/

set_option autoImplicit false

namespace DisastrOS

inductive Piece where
  | words (s : String)
  | number (n : Int)
  | bytes (message : List UInt8)

abbrev Report := List Piece

def Piece.shown : Piece → List UInt8
  | .words s => s.toUTF8.data.toList
  | .number n => (toString n).toUTF8.data.toList
  | .bytes message => message

def Report.shown (report : Report) : List UInt8 := report.flatMap Piece.shown

def Report.row (items : List Report) : Report := [.words ", "].intercalate items

def Report.lines (items : List Report) : Report :=
  .words "\x7b\n" :: ([.words ",\n"].intercalate (items.map fun item => .words "\t" :: item) ++
    (if items.isEmpty then [] else [.words "\n"]) ++ [.words "\x7d\n"])

/-- The message up to the first NUL in it. -/
def Message.string (m : Message) : List UInt8 :=
  ((List.range m.length.toNat).map m.message).takeWhile (· ≠ 0)

namespace Report
section
variable (list : Head → List Addr) (s : Store)

def pidOf (p : Pointer) : Int := p.elim 0 fun p => (s.pcb p).pid

def process (p : Addr) : Report :=
  [.words "[pid: ", .number (s.pcb p).pid, .words ", child: ("] ++
    row ((list (.children p)).map fun e => [.number (pidOf s (s.pcb_ptr e))]) ++ [.words ")]"]

def processes (h : Head) : Report := lines ((list h).map (process list s))

def timers : Report :=
  [.words "["] ++ row ((list .timer_list).map fun t =>
    [.words "(pid:", .number (pidOf s (s.timer_item t).pcb), .words ", t:", .number (s.timer_item t).awakening_time,
      .words ")"]) ++ [.words "]"]

/-- The descriptors of an object, each with the process it belongs to. -/
def users (user : Int → Int → Report) (o : Addr) : Report :=
  [.words "["] ++ row ((list (.descriptors_ptrs o)).map fun e => (s.descriptor_ptr e).elim [] fun d =>
    user (s.descriptor d).fd (pidOf s (s.descriptor d).pcb)) ++ [.words "]"]

/-- What stands behind `pid` is the descriptor, and the process behind `fd`. -/
def resource (x : Addr) : Report :=
  [.words "id: ", .number (s.resource x).id, .words ", type:", .number (s.resource x).type, .words ", pids:"] ++
    users list s (fun fd pid => [.words "(pid: ", .number fd, .words ", fd: ", .number pid, .words ", rid:",
      .number (s.resource x).id, .words ")"]) x

def messages (q : Addr) : Report :=
  (list (.messages q)).zipIdx.flatMap fun (x, i) =>
    [.words "        - messaggio ", .number i, .words ": ", .bytes (s.message x).string, .words " \n"]

def waiters (before : String) (h : Head) : Report :=
  (list h).flatMap fun w => [.words before, .number (pidOf s (s.pcb_ptr w)), .words "\n"]

def queue (q : Addr) : Report :=
  [.words "mq di id: ", .number (s.mq q).id, .words ", contiene ", .number (s.mq q).num_written,
    .words " messaggi, i suoi valori sono:"] ++
  users list s (fun fd pid => [.words "(fd: ", .number fd, .words ", pid: ", .number pid, .words ", mqid:",
    .number (s.mq q).id, .words ")"]) q ++ [.words "\n\n"] ++
  [.words (if list (.messages q) = [] then "        Message queue vuota.\n"
    else "        Lista dei messaggi contenuti nella MQ:\n")] ++ messages list s q ++ [.words "\n"] ++
  (if list (.waiting_to_read q) = [] then [.words "        Non c'è nessun reader in attesa nella mq\n"]
    else waiters list s "        Un reader in attesa ha pid: " (.waiting_to_read q)) ++
  (if list (.waiting_to_write q) = [] then [.words "        Non c'è nessun writer in attesa nella mq\n"]
    else waiters list s "        Un writer in attesa ha pid: " (.waiting_to_write q))

def status : Report :=
  [.words "\n****************** DisastrOS ******************\nRunning: "] ++ s.running.elim [] (process list s) ++
  [.words "\nTimers: "] ++ timers list s ++
  [.words "\nResources: "] ++ lines ((list .resources_list).map (resource list s)) ++
  [.words "\nMessage Queues: "] ++ lines ((list .mq_list).map (queue list s)) ++
  [.words "\nReady: "] ++ processes list s .ready_list ++
  [.words "\nWaiting: "] ++ processes list s .waiting_list ++
  [.words "\nZombie: "] ++ processes list s .zombie_list ++
  [.words "\n***********************************************\n\n"]

end

@[simp] theorem shown_nil : shown [] = [] := rfl

@[simp] theorem shown_cons (piece : Piece) (report : Report) : shown (piece :: report) = piece.shown ++ shown report :=
  rfl

@[simp] theorem shown_append (first second : Report) : shown (first ++ second) = shown first ++ shown second :=
  List.flatMap_append

theorem shown_intercalate (between : Report) (items : List Report) :
    shown (between.intercalate items) = (shown between).intercalate (items.map shown) := by
  induction items with
  | nil => rfl
  | cons item items ih =>
    cases items with
    | nil => simp
    | cons next items => simpa [List.intercalate_cons_cons] using ih

end Report

end DisastrOS
