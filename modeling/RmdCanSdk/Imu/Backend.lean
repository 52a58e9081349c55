import RmdCanSdk.Imu.ReadLoop
import RmdCanSdk.Library.Transition
import RmdCanSdk.Yesense.Decoder

/-!
# The serial backend

The caller starts and stops the backend, and a thread of it reads in between. Both go through
the code step by step, in any order; a step is an access to something that they share, or a
system call. Creating the thread does not fail here.
-/

namespace RmdCanSdk

variable {F : Type} [FloatArith F] (floatOfBits : BitVec 32 → F)

def ImuStruct.zero : ImuStruct F where
  rpy := .replicate 3 (lit 0)
  gyr := .replicate 3 (lit 0)
  acc := .replicate 3 (lit 0)

/-- The samples that the read loop publishes for some reads. There are none for an unknown type,
or when the decoder of Yesense frames leaves its buffer. -/
def samplesOf (type : String) (reads : List (List Byte)) : Option (List (ImuStruct F)) :=
  if type = "YESENSE" then
    ((Yesense.ReadLoop.start : Yesense.ReadLoop F F).readAll reads).map Yesense.ReadLoop.published
  else (readLoop floatOfBits type reads).map ReadLoop.published

def baudToSpeed (baudrate : Int) : Option Int :=
  if baudrate ∈ [921600, 576000, 460800, 230400, 115200, 57600, 38400, 19200, 9600, 4800, 2400,
    1200, 300] then some baudrate
  else none

/-- Where the read thread stands in `readLoop`, with its descriptor and what it has read. -/
inductive ReadPhase (F : Type) where
  | entered
  | checking (fd : Int) (reads : List (List Byte))
  | reading (fd : Int) (reads : List (List Byte))
  | publishing (fd : Int) (reads : List (List Byte)) (left : List (ImuStruct F))
  | closing (fd : Int)
  | clearing
  | finishing
  | exited

/-- Where the caller stands in `start` or `stop`, or what the last of them has returned. -/
inductive CallPhase where
  | idle (result : Option Int)
  | opening (type : String)
  | gettingAttributes (type : String) (fd : Int)
  | settingAttributes (type : String) (fd : Int)
  | abandoning (fd : Int)
  | keeping (type : String) (fd : Int)
  | publishing
  | resuming
  | announcing
  | spawning
  | joining
  | leaving
  | terminated

/-- The fields of the backend that the program uses, its descriptors that are open, and the
samples that its buffer was given. A thread that was not joined is there, also after its end. -/
structure Rs232ImuBackend (F : Type) where
  type : String
  serialFd : Int
  running : Bool
  stop : Bool
  thread : Option (ReadPhase F)
  caller : CallPhase
  descriptors : List Int
  published : List (ImuStruct F)

/-- The caller begins with an operation or proceeds, with the result of a system call; the read
thread proceeds, with the bytes that a read gives. -/
inductive ImuEvent where
  | start (device type : Option String) (baudrate : Int)
  | stop
  | call (result : Int)
  | read (input : List Byte)

namespace Rs232ImuBackend

omit [FloatArith F] in
def constructed : Rs232ImuBackend F where
  type := ""
  serialFd := -1
  running := false
  stop := true
  thread := none
  caller := .idle none
  descriptors := []
  published := []

/-- The checks of `start`, up to the first system call. -/
def begin (backend : Rs232ImuBackend F) (device type : Option String) (baudrate : Int) :
    CallPhase :=
  match device, type with
  | some _, some type =>
      if (protocolForType type).isNone then .idle (some (-1))
      else if backend.running then .idle (some 0)
      else if (baudToSpeed baudrate).isNone then .idle (some (-1))
      else .opening type
  | _, _ => .idle (some (-1))

/-- A step of the caller in an operation. -/
def call (backend : Rs232ImuBackend F) (result : Int) : Option (Rs232ImuBackend F) :=
  match backend.caller with
  | .idle _ | .terminated => none
  | .opening type =>
      if result < 0 then some { backend with caller := .idle (some (-1)) }
      else if result ∈ backend.descriptors then none
      else some { backend with
        descriptors := result :: backend.descriptors
        caller := .gettingAttributes type result }
  | .gettingAttributes type fd => some { backend with
      caller := if result = 0 then .settingAttributes type fd else .abandoning fd }
  | .settingAttributes type fd => some { backend with
      caller := if result = 0 then .keeping type fd else .abandoning fd }
  | .abandoning fd => some { backend with
      descriptors := backend.descriptors.erase fd
      caller := .idle (some (-1)) }
  | .keeping type fd => some { backend with
      type := normalizeType type
      serialFd := fd
      caller := .publishing }
  | .publishing => some { backend with
      published := backend.published ++ [.zero]
      caller := .resuming }
  | .resuming => some { backend with stop := false, caller := .announcing }
  | .announcing => some { backend with running := true, caller := .spawning }
  | .spawning =>
      match backend.thread with
      | none => some { backend with thread := some .entered, caller := .idle (some 0) }
      -- a thread that is joinable is assigned to
      | some _ => some { backend with caller := .terminated }
  | .joining =>
      match backend.thread with
      | none => some { backend with caller := .leaving }
      | some .exited => some { backend with thread := none, caller := .leaving }
      | some _ => none
  | .leaving => some { backend with running := false, caller := .idle none }

/-- A step of the read thread. -/
def read (backend : Rs232ImuBackend F) (input : List Byte) : Option (Rs232ImuBackend F) :=
  match backend.thread with
  | none | some .exited => none
  | some .entered =>
      if (protocolForType backend.type).isNone ∨ backend.serialFd < 0 then
        some { backend with thread := some .finishing }
      else some { backend with thread := some (.checking backend.serialFd []) }
  | some (.checking fd reads) => some { backend with
      thread := some (if backend.stop then .closing fd else .reading fd reads) }
  | some (.reading fd reads) =>
      if 512 < input.length then none
      -- a read that fails, or has nothing to give
      else if input = [] then some { backend with thread := some (.checking fd reads) }
      else do
        let before ← samplesOf floatOfBits backend.type reads
        let after ← samplesOf floatOfBits backend.type (reads ++ [input])
        return { backend with
          thread := some (.publishing fd (reads ++ [input]) (after.drop before.length)) }
  | some (.publishing fd reads []) => some { backend with
      thread := some (.checking fd reads) }
  | some (.publishing fd reads (sample :: left)) => some { backend with
      published := backend.published ++ [sample]
      thread := some (.publishing fd reads left) }
  | some (.closing fd) => some { backend with
      descriptors := backend.descriptors.erase fd
      thread := some .clearing }
  | some .clearing => some { backend with serialFd := -1, thread := some .finishing }
  | some .finishing => some { backend with running := false, thread := some .exited }

/-- One step of the caller or of the read thread. There is one caller, which begins an operation
after the end of the one before. -/
def step (backend : Rs232ImuBackend F) : ImuEvent → Option (Rs232ImuBackend F)
  | .start device type baudrate =>
      match backend.caller with
      | .idle _ => some { backend with caller := backend.begin device type baudrate }
      | _ => none
  | .stop =>
      match backend.caller with
      | .idle _ => some { backend with stop := true, caller := .joining }
      | _ => none
  | .call result => backend.call result
  | .read input => backend.read floatOfBits input

end Rs232ImuBackend

end RmdCanSdk
