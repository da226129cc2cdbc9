/-
The system tests (`tester/st_deterministic.c`, `tester/st_stochastic.c`) as programs over what they ask
for: memory, the three entry points of the framework, and lines of output, of which the values printed
are kept. The mirror and the results of `random()` still to come go from function to function.
-/
import NandRig.Tester.Data
import NandRig.Tester.Stochastic
import NandRig.Lib.Transcript

namespace NandRig.Tester

open Emulator Framework Interact

/-! ## Test programs -/

/-- A line of output, with the values printed. -/
inductive Report
  /-- `print_op()`. -/
  | op (choice : Choice) (firstAddr size : UInt32)
  | mallocFailed (choice : Choice)
  | timedOut (choice : Choice)
  | readDiffers (index deviceIndex : UInt32) (fromDevice fromMirror : UInt8)
  | testResult (pass : Bool)
  | allTests (pass : Bool)
  /-- The operation of `st_deterministic()` that did not return 0. -/
  | failedTo (choice : Choice) (size addr : UInt32)
  | passMatch
  | failDiffers (index : UInt32)
  | passZeroes
  | failNonZero (index : UInt32)
  deriving DecidableEq, Repr

inductive TestOp
  /-- `malloc(size)`, answered by the memory if there is any. -/
  | malloc (size : UInt32)
  | writeNand (buffer : Buffer) (offset size : UInt32)
  | readNand (buffer : Buffer) (offset size : UInt32)
  | eraseNand (offset size : UInt32)
  | printf (report : Report)
  /-- A failed assertion, or a loop of the mirror that never ends. -/
  | abort

abbrev TestOp.Res : TestOp → Type
  | .malloc _ => Option Buffer
  | .writeNand _ _ _ => Int
  | .readNand _ _ _ => Buffer × Int
  | .eraseNand _ _ => Int
  | .printf _ => Unit
  | .abort => Empty

abbrev TestM := Prog TestOp TestOp.Res

def request (o : TestOp) : TestM o.Res := Prog.call o

/-- The value, if the computation has one. -/
def orAbort {α : Type} (x : Option α) : TestM α :=
  if h : x.isSome then pure (x.get h) else do
    let e ← request .abort
    nomatch e

theorem orAbort_some {α : Type} (a : α) : orAbort (some a) = pure a := rfl

/-! ## The stochastic test -/

/-- What outlives a test: the mirror, and the state of the random number generator. -/
structure Statics where
  mirror : Mirror
  results : Results

def doErase (start size : UInt32) (st : Statics) : TestM (Int × Statics) := do
  request (.printf (.op .erase start size))
  let mirror ← orAbort (eraseMirror start size st.mirror)
  let result ← request (.eraseNand start size)
  if result ≠ 0 then do
    request (.printf (.timedOut .erase))
    pure (-1, { st with mirror })
  else pure (0, { st with mirror })

def doWrite (start size : UInt32) (st : Statics) : TestM (Int × Statics) := do
  let memory ← request (.malloc size)
  if h : memory.isSome then do
    let buf := dataInit (memory.get h) size
    request (.printf (.op .write start size))
    let mirror ← orAbort (writeMirror buf start size st.mirror)
    let result ← request (.writeNand buf start size)
    if result ≠ 0 then do
      request (.printf (.timedOut .write))
      pure (-1, { st with mirror })
    else pure (0, { st with mirror })
  else do
    request (.printf (.mallocFailed .write))
    pure (-1, st)

/-- The loop that compares the data of device and mirror. -/
def compareLoop (fromDevice fromMirror : Buffer) (start size : UInt32) : TestM Int := do
  let i := firstIndex (fun i => fromDevice i != fromMirror i) size 0
  if i < size then do
    request (.printf (.readDiffers i ((start + i) % deviceBytes) (fromDevice i.toNat) (fromMirror i.toNat)))
    pure (-1)
  else pure 0

def doReadAndComparison (start size : UInt32) (st : Statics) : TestM (Int × Statics) := do
  let memory₁ ← request (.malloc size)
  if h₁ : memory₁.isSome then do
    let memory₂ ← request (.malloc size)
    if h₂ : memory₂.isSome then do
      request (.printf (.op .read start size))
      let fromMirror := readMirror (memory₁.get h₁) start size st.mirror
      let fromDevice ← request (.readNand (memory₂.get h₂) start size)
      if fromDevice.2 ≠ 0 then do
        request (.printf (.timedOut .read))
        pure (-1, st)
      else do
        let result ← compareLoop fromDevice.1 fromMirror start size
        pure (result, st)
    else do
      request (.printf (.mallocFailed .read))
      pure (-1, st)
  else do
    request (.printf (.mallocFailed .read))
    pure (-1, st)

def doOp (op : FuzzOp) (st : Statics) : TestM (Int × Statics) :=
  match op.choice with
  | .erase => doErase op.start op.size st
  | .write => doWrite op.start op.size st
  | .read => doReadAndComparison op.start op.size st

/-- The loop of `do_test()` for `n` operations. -/
def doOps : (n : Nat) → Statics → TestM (Int × Statics)
  | 0, st => pure (0, st)
  | n + 1, st => do
    let drawn ← orAbort (drawOp st.results)
    let done ← doOp drawn.1 { st with results := drawn.2 }
    if done.1 ≠ 0 then pure (-1, done.2) else doOps n done.2

abbrev numOps : Nat := 8

def doTest (start size : UInt32) (st : Statics) : TestM (Int × Statics) := do
  let erased ← doErase start size st
  if erased.1 ≠ 0 then pure (-1, erased.2)
  else do
    let done ← doOps numOps erased.2
    if done.1 ≠ 0 then pure (-1, done.2)
    else doReadAndComparison start size done.2

/-- The loop of `st_stochastic()` for `n` tests. -/
def testLoop : (n : Nat) → (retVal : Int) → Statics → TestM (Int × Statics)
  | 0, retVal, st => pure (retVal, st)
  | n + 1, retVal, st => do
    let tested ← doTest arenaStart arenaSize st
    if tested.1 ≠ 0 then do
      request (.printf (.testResult false))
      testLoop n (-1) tested.2
    else do
      request (.printf (.testResult true))
      testLoop n retVal tested.2

/-- Seeded with the time, the generator may give any results. -/
def stStochastic (numTests : Nat) (st : Statics) : TestM (Int × Statics) := do
  let tested ← testLoop numTests 0 st
  request (.printf (.allTests (tested.1 == 0)))
  pure tested

/-! ## The deterministic test -/

abbrev storageAddr : UInt32 := 0
abbrev dataSize : UInt32 := 300

/-- The second half: the erase, and the read that is to fetch zeroes. -/
def eraseAndConfirm (dest : Buffer) : TestM Int := do
  let erased ← request (.eraseNand storageAddr dataSize)
  if erased ≠ 0 then do
    request (.printf (.failedTo .erase dataSize storageAddr))
    pure (-1)
  else do
    let dest ← request (.readNand dest storageAddr dataSize)
    if dest.2 ≠ 0 then do
      request (.printf (.failedTo .read dataSize storageAddr))
      pure (-1)
    else do
      let index := dataConfirmZeroes dest.1 dataSize
      if dataSize = index then do
        request (.printf .passZeroes)
        pure 0
      else do
        request (.printf (.failNonZero index))
        pure (-1)

def stDeterministic (data dest : Buffer) : TestM Int := do
  let data := dataInit data dataSize
  let written ← request (.writeNand data storageAddr dataSize)
  if written ≠ 0 then do
    request (.printf (.failedTo .write dataSize storageAddr))
    pure (-1)
  else do
    let dest ← request (.readNand dest storageAddr dataSize)
    if dest.2 ≠ 0 then do
      request (.printf (.failedTo .read dataSize storageAddr))
      pure (-1)
    else do
      let index := dataCompare data dest.1 dataSize
      if dataSize = index then do
        request (.printf .passMatch)
        eraseAndConfirm dest.1
      else do
        request (.printf (.failDiffers index))
        pure (-1)

end NandRig.Tester
