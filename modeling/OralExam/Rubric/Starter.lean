import OralExam.Rubric.Basic

/-! The rubric that a service starts with if its settings bring none for the same assignment. -/

set_option autoImplicit false

namespace OralExam.Rubric.Starter

def ownership : Concept where
  id := "ownership"
  name := "Ownership"
  weight := 2
  order := 0
  keywords := ["owner", "move|moved", "drop|dropped"]
  questions := [
    { id := "own-1"
      text := "What happens to a String when the variable that owns it goes out of scope?"
      tier := .easy
      discrimination := 1.2
      difficulty := -1.0
      keywords := ["dropped|freed|deallocated", "scope", "owner"]
      sampleAnswer :=
        "The owner goes out of scope, so the String is dropped and its heap buffer is freed."
      expectedSeconds := 60 },
    { id := "own-2"
      text := "After `let b = a;` where `a` is a String, why can't you use `a` anymore?"
      tier := .medium
      discrimination := 1.5
      difficulty := 0.0
      keywords := ["move|moved", "ownership", "invalid|invalidated"]
      sampleAnswer := "Ownership moved to b; a is invalidated so the buffer is not freed twice."
      expectedSeconds := 90 },
    { id := "own-3"
      text := "When would you implement Copy for a type, and what does it change about moves?"
      codeSnippet := some "#[derive(Clone, Copy)]\nstruct Point \x7b x: i32, y: i32 \x7d"
      tier := .hard
      discrimination := 1.0
      difficulty := 1.2
      keywords := ["copy", "bitwise|stack", "clone"]
      sampleAnswer := "Copy types are duplicated bitwise on assignment, so the original stays " ++
        "usable; only small stack-only types can be Copy and they must also be Clone."
      expectedSeconds := 120 }]
  misconceptions := [
    { id := "gc"
      keywords := ["garbage collector", "garbage collection", "gc"]
      correction := "Rust has no garbage collector; values are dropped deterministically when " ++
        "their owner goes out of scope."
      severity := .high },
    { id := "deep-copy"
      keywords := ["deep copy", "copies the heap"]
      correction := "Assigning a String moves the pointer, length and capacity; the heap data " ++
        "is not copied."
      severity := .medium }]

def borrowing : Concept where
  id := "borrowing"
  name := "Borrowing and lifetimes"
  weight := 1
  order := 1
  keywords := ["reference", "borrow"]
  questions := [
    { id := "bor-1"
      text := "What is the difference between &T and &mut T?"
      tier := .easy
      discrimination := 1.3
      difficulty := -0.5
      keywords := ["shared|immutable", "exclusive|mutable|unique", "reference"]
      sampleAnswer := "&T is a shared, immutable reference; &mut T is an exclusive reference " ++
        "that allows mutation."
      expectedSeconds := 60 },
    { id := "bor-2"
      text := "Why does the borrow checker reject two simultaneous mutable borrows?"
      tier := .medium
      discrimination := 1.8
      difficulty := 0.6
      keywords := ["data race|data races", "aliasing", "exclusive"]
      sampleAnswer :=
        "Mutable borrows must be exclusive; aliasing plus mutation would allow data races."
      expectedSeconds := 90 },
    { id := "bor-3"
      text := "Explain what a lifetime annotation like 'a tells the compiler."
      tier := .hard
      discrimination := 1.1
      difficulty := 1.8
      keywords := ["lifetime|lifetimes", "outlive|outlives", "reference"]
      sampleAnswer := "It relates the lifetimes of references so the compiler can prove no " ++
        "reference outlives its data."
      expectedSeconds := 120 }]
  misconceptions := [
    { id := "lifetimes-runtime"
      keywords := ["at runtime", "runtime check"]
      correction := "Lifetimes are checked entirely at compile time and have no runtime cost."
      severity := .high }]

def errors : Concept where
  id := "errors"
  name := "Error handling"
  weight := 1
  order := 2
  keywords := ["result", "error"]
  questions := [
    { id := "err-1"
      text := "What does the ? operator do in a function returning Result?"
      tier := .easy
      discrimination := 1.4
      difficulty := -0.8
      keywords := ["propagate|propagates|returns early", "err|error", "result"]
      sampleAnswer := "On Err it returns early, propagating the error to the caller; on Ok it " ++
        "unwraps the value inside the Result."
      expectedSeconds := 60 },
    { id := "err-2"
      text := "When is it acceptable to call unwrap?"
      tier := .medium
      discrimination := 0.9
      difficulty := 0.3
      keywords := ["panic|panics", "tests|prototype|prototyping", "invariant"]
      sampleAnswer := "In tests or prototypes, or when an invariant guarantees the value is " ++
        "present; otherwise it panics."
      expectedSeconds := 90 }]
  misconceptions := [
    { id := "exceptions"
      keywords := ["try catch", "exception", "exceptions"]
      correction := "Rust has no exceptions; recoverable errors are values of type Result."
      severity := .medium }]

end OralExam.Rubric.Starter

namespace OralExam

def Rubric.starter : Rubric where
  id := "rust-fundamentals-v1"
  assignmentId := "demo-assignment"
  name := "Rust fundamentals"
  status := .active
  concepts := [Rubric.Starter.ownership, Rubric.Starter.borrowing, Rubric.Starter.errors]

end OralExam
