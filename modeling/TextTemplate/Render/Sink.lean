/-!
# Sinks

A sink takes the texts of a render one by one. It may refuse a text, in view of those that it took
before; what it took stays.
-/
namespace TextTemplate

/-- The length of all texts together, in bytes. -/
def sizeOfTexts (texts : Array String) : Nat :=
  texts.foldl (fun size text => size + text.utf8ByteSize) 0

/-- Texts in the order in which they were written, with their length. -/
structure Output where
  /-- The texts. -/
  texts : Array String
  /-- The length of all texts together, in bytes. -/
  size : Nat
  /-- The length is that of the texts. -/
  size_eq : size = sizeOfTexts texts

namespace Output

/-- No texts. -/
def empty : Output := ⟨#[], 0, by simp [sizeOfTexts]⟩

instance : EmptyCollection Output := ⟨empty⟩

instance : Inhabited Output := ⟨empty⟩

/-- One more text. -/
def push (output : Output) (text : String) : Output where
  texts := output.texts.push text
  size := output.size + text.utf8ByteSize
  size_eq := by simp [output.size_eq, sizeOfTexts]

/-- All texts in one. -/
def text (output : Output) : String := String.join output.texts.toList

/-- A text that is put out comes after the others. -/
@[simp] theorem texts_push (output : Output) (text : String) :
    (output.push text).texts = output.texts.push text := rfl

end Output

/-- What takes the text of a render. It may refuse a text; what it took stays. -/
structure Sink where
  /-- Whether a text is taken after the texts that were taken before. -/
  accepts : Output → String → Bool
  /-- The texts taken so far. -/
  written : Output
  /-- The number of files being created around what is written here. -/
  level : Nat

namespace Sink

/-- The sink of the given level that takes every text. -/
def unlimited (level : Nat) : Sink := ⟨fun _ _ => true, ∅, level⟩

/-- The sink that refuses a text with which it would hold more than the given number of bytes. -/
def limited (limit : Nat) : Sink :=
  ⟨fun before text => before.size + text.utf8ByteSize ≤ limit, ∅, 0⟩

/-- All the text taken so far. -/
def text (sink : Sink) : String := sink.written.text

end Sink

end TextTemplate
