import DisastrOS.Kernel

/-! `disastrOS_printStatus` and the `_print` functions it is made of.

They walk the lists of the kernel on their own, from whatever process calls them.
What `printf` writes is a sequence of bytes, since the text of a message is.
-/

set_option autoImplicit false

namespace DisastrOS

open Refinement

abbrev Text := List UInt8

/-! ## Formats -/

def text (s : String) : Text := s.toUTF8.data.toList

def decimal (n : Int) : Text := text (toString n)

def pcbFormat (pid : Int) (children : Text) : Text :=
  text "[pid: " ++ decimal pid ++ text ", child: " ++ children ++ text "]"

def timerFormat (pid awakening_time : Int) : Text :=
  text "(pid:" ++ decimal pid ++ text ", t:" ++ decimal awakening_time ++ text ")"

/-- The source passes the descriptor where the format says `pid`. -/
def resourcePtrFormat (fd pid id : Int) : Text :=
  text "(pid: " ++ decimal fd ++ text ", fd: " ++ decimal pid ++ text ", rid:" ++ decimal id ++ text ")"

def mqPtrFormat (fd pid id : Int) : Text :=
  text "(fd: " ++ decimal fd ++ text ", pid: " ++ decimal pid ++ text ", mqid:" ++ decimal id ++ text ")"

def resourceFormat (r : Resource) (pids : Text) : Text :=
  text "id: " ++ decimal r.id ++ text ", type:" ++ decimal r.type ++ text ", pids:" ++ pids

def messageFormat (i : Nat) (message : Text) : Text :=
  text "        - messaggio " ++ decimal i ++ text ": " ++ message ++ text " \n"

def readerFormat (pid : Int) : Text := text "        Un reader in attesa ha pid: " ++ decimal pid ++ text "\n"

def writerFormat (pid : Int) : Text := text "        Un writer in attesa ha pid: " ++ decimal pid ++ text "\n"

/-- Whether it is `empty`, `unread` and `unwritten` is a NULL at the head of a list. -/
def mqFormat (r : MessageQueue) (empty unread unwritten : Bool) (descriptors messages readers writers : Text) : Text :=
  text "mq di id: " ++ decimal r.id ++ text ", contiene " ++ decimal r.num_written ++
    text " messaggi, i suoi valori sono:" ++ descriptors ++ text "\n\n" ++
  (if empty then text "        Message queue vuota.\n"
    else text "        Lista dei messaggi contenuti nella MQ:\n") ++ messages ++ text "\n" ++
  (if unread then text "        Non c'è nessun reader in attesa nella mq\n" else []) ++ readers ++
  (if unwritten then text "        Non c'è nessun writer in attesa nella mq\n" else []) ++ writers

def linesFormat (items : Text) : Text := text "\x7b\n" ++ items ++ text "\x7d\n"

def statusFormat (running timers resources mqs ready waiting zombie : Text) : Text :=
  text "\n****************** DisastrOS ******************\n" ++ text "Running: " ++ running ++ text "\n" ++
    text "Timers: " ++ timers ++ text "\nResources: " ++ resources ++ text "\nMessage Queues: " ++ mqs ++
    text "\nReady: " ++ ready ++ text "\nWaiting: " ++ waiting ++ text "\nZombie: " ++ zombie ++
    text "\n***********************************************\n\n"

/-! ## Code -/

/-- The bytes of an array before its first NUL. -/
def beforeNul (n : Nat) (array : Nat → UInt8) : Text := ((List.range n).map array).takeWhile (· ≠ 0)

/-- `%s` of the array of a message. A scan that finds no NUL in it leaves the array. -/
def message_string (c : Config) (message : Nat → UInt8) : Code Text :=
  if (beforeNul c.MAX_LEN_MESSAGE message).length < c.MAX_LEN_MESSAGE then
    pure (beforeNul c.MAX_LEN_MESSAGE message)
  else .fail .outOfBounds

/-- The loop of the functions that print a list: each item with its number, `between` behind
each but the last, `behind` behind each. -/
def List_print (head : Head) (item : Nat → Addr → Code Text) (between behind : Text) : Code Text := do
  let aux ← first head
  .iterate (fun (aux, i, printed) =>
    match aux with
    | none => return .inr printed
    | some x => do
      let shown ← item i x
      let aux ← next x
      return .inl (aux, i + 1, printed ++ (shown ++ ((if aux.isSome then between else []) ++ behind)))) (aux, 0, [])

def PCBPtr_pid (pcb_ptr : Addr) : Code Int := do
  let pcb ← deref .pcb (← get fun s => s.pcb_ptr pcb_ptr)
  get fun s => (s.pcb pcb).pid

def PCBPtrList_print (head : Head) : Code Text := do
  let items ← List_print head (fun _ e => do return decimal (← PCBPtr_pid e)) (text ", ") []
  return text "(" ++ items ++ text ")"

def PCB_print (pcb : Addr) : Code Text := do
  let pid ← get fun s => (s.pcb pcb).pid
  let children ← PCBPtrList_print (.children pcb)
  return pcbFormat pid children

def PCBList_print (head : Head) : Code Text := do
  let items ← List_print head (fun _ pcb => do return text "\t" ++ (← PCB_print pcb)) (text ",") (text "\n")
  return linesFormat items

def TimerList_print (timers : Head) : Code Text := do
  let items ← List_print timers (fun _ t => do
    let aux ← get fun s => s.timer_item t
    let pcb ← deref .pcb aux.pcb
    let pid ← get fun s => (s.pcb pcb).pid
    return timerFormat pid aux.awakening_time) (text ", ") []
  return text "[" ++ items ++ text "]"

/-- `DescriptorPtrList_print` and `DescriptorPtrList_print_mq` differ in the object whose
identifier they print and in the format. -/
def DescriptorPtrs_print (object : Pool) (which : Descriptor → Pointer) (id : Store → Addr → Int)
    (format : Int → Int → Int → Text) (l : Head) : Code Text := do
  let items ← List_print l (fun _ e => do
    let d ← deref .descriptor (← get fun s => s.descriptor_ptr e)
    let des ← get fun s => s.descriptor d
    let pcb ← deref .pcb des.pcb
    let o ← deref object (which des)
    let pid ← get fun s => (s.pcb pcb).pid
    let id ← get fun s => id s o
    return format des.fd pid id) (text ", ") []
  return text "[" ++ items ++ text "]"

def DescriptorPtrList_print : Head → Code Text :=
  DescriptorPtrs_print .resource (·.resource) (fun s r => (s.resource r).id) resourcePtrFormat

def DescriptorPtrList_print_mq : Head → Code Text :=
  DescriptorPtrs_print .message_queue (·.mq) (fun s r => (s.mq r).id) mqPtrFormat

def Resource_print (r : Addr) : Code Text := do
  let resource ← get fun s => s.resource r
  let pids ← DescriptorPtrList_print (.descriptors_ptrs r)
  return resourceFormat resource pids

def ResourceList_print (l : Head) : Code Text := do
  let items ← List_print l (fun _ r => do return text "\t" ++ (← Resource_print r)) (text ",") (text "\n")
  return linesFormat items

def MessageQueue_print (c : Config) (r : Addr) : Code Text := do
  let mq ← get fun s => s.mq r
  let descriptors ← DescriptorPtrList_print_mq (.descriptors_ptrs r)
  let m ← first (.messages r)
  let messages ← List_print (.messages r) (fun i m => do
    let message ← get fun s => (s.message m).message
    return messageFormat i (← message_string c message)) [] []
  let waiting_to_read ← first (.waiting_to_read r)
  let waiting_to_write ← first (.waiting_to_write r)
  let readers ← List_print (.waiting_to_read r) (fun _ w => do return readerFormat (← PCBPtr_pid w)) [] []
  let writers ← List_print (.waiting_to_write r) (fun _ w => do return writerFormat (← PCBPtr_pid w)) [] []
  return mqFormat mq m.isNone waiting_to_read.isNone waiting_to_write.isNone descriptors messages readers writers

def MessageQueueList_print (c : Config) (l : Head) : Code Text := do
  let items ← List_print l (fun _ r => do return text "\t" ++ (← MessageQueue_print c r)) (text ",") (text "\n")
  return linesFormat items

def disastrOS_printStatus (c : Config) : Code Text := do
  let running ← (← get (·.running)).elim (pure []) PCB_print
  let timers ← TimerList_print .timer_list
  let resources ← ResourceList_print .resources_list
  let mqs ← MessageQueueList_print c .mq_list
  let ready ← PCBList_print .ready_list
  let waiting ← PCBList_print .waiting_list
  let zombie ← PCBList_print .zombie_list
  return statusFormat running timers resources mqs ready waiting zombie

end DisastrOS
