import Agenda.Text.Emoji
import Agenda.Text.Ligature

/-!
# Display width of texts

How many columns a text takes up on a terminal. It is measured from right to left: what a character
adds hangs on what stands to its right, as an emoji takes up what is joined to it and a letter may
become part of a ligature. A character may also take a column back. `width_ascii` says that ASCII
characters take one column each.
-/

namespace Agenda.Text

/-- A form that a selector asks for. -/
inductive Form where
  | emoji
  | text
deriving DecidableEq, Repr

/-- What the text to the right of a place starts with, as far as it bears on the width. -/
inductive Context where
  /-- Nothing of interest. -/
  | plain
  | skinTone
  | flagLetter
  /-- Two or more flag letters. -/
  | flagLetters
  | emoji
  /-- A joiner and an emoji. -/
  | joined
  /-- A keycap mark, a joiner and an emoji. -/
  | joinedKeycap
  /-- So many flag letters, a joiner and an emoji: one, an even number, or a greater odd number. -/
  | joinedFlagLetter
  | joinedEvenLetters
  | joinedOddLetters
  /-- The end of a tag, a joiner and an emoji, with so many small letters of the tag before it. -/
  | tagLetters (count : Nat)
  /-- The same with so many digits before the letters. -/
  | tagDigits (count : Nat)
  /-- The Kirat Rai vowel signs e and ai. -/
  | vowelE
  | vowelAi
  /-- The selector of wide quotation marks. -/
  | wideQuote
  /-- An Arabic letter that joins as alef does. -/
  | alef
  /-- The right part of a ligature, and whether a joiner stands before it. -/
  | ligature (part : LigaturePart) (joined : Bool)
deriving DecidableEq, Repr

/-- What stands to the right of a place: a selector, if one stands there directly, and what follows
it. -/
structure Right where
  context : Context := .plain
  selector : Option Form := none
deriving DecidableEq, Repr

namespace Context

/-- Whether the context is the right part of a ligature. -/
def isLigature : Context → Bool
  | alef | ligature _ _ => true
  | _ => false

/-- Whether an emoji joined to others stands there, which can still take in a character with an
emoji form. -/
def isJoined : Context → Bool
  | joined | joinedKeycap => true
  | _ => false

/-- The context behind a selector, which only a ligature outlasts, or for the emoji form a joined
emoji. -/
def withSelector (context : Context) (form : Form) : Right :=
  let kept := context.isLigature || form = .emoji && context.isJoined
  ⟨if kept then context else .plain, some form⟩

/-- The context behind a selector that does nothing to the character before it. -/
def behindSelector (context : Context) : Context := if context.isLigature then context else plain

/-- The context that a character makes when it stands alone. -/
def ofChar (c : Char) : Context :=
  if isSkinTone c then skinTone
  else if isFlagLetter c then flagLetter
  else if isShownAsEmoji c then emoji
  else if c = '\ufe01' then wideQuote
  else if c.toNat = 0x16D67 then vowelE
  else if c.toNat = 0x16D68 then vowelAi
  else if isAlef c then alef
  else
    match LigaturePart.ofChar? c with
    | some part => ligature part false
    | none => plain

/-- Whether a joiner before the context joins something to it. -/
def takesJoiner : Context → Bool
  | emoji | flagLetters | joinedEvenLetters | joinedOddLetters | skinTone => true
  | _ => false

end Context

/-- Whether a character is a quotation mark that has a wide form. -/
def isTwoFormQuote (c : Char) : Bool := inRanges [(0x2018, 0x2019), (0x201C, 0x201D)] c

/-- Whether a character is a small letter of an emoji tag. -/
def isTagLetter (c : Char) : Bool := 0xE0061 ≤ c.toNat && c.toNat ≤ 0xE007A

/-- Whether a character is a digit of an emoji tag. -/
def isTagDigit (c : Char) : Bool := 0xE0030 ≤ c.toNat && c.toNat ≤ 0xE0039

/-- Whether a character is the black flag, which emoji tags follow. -/
def isTaggedFlag (c : Char) : Bool := c.toNat = 0x1F3F4

/-- What a character adds to an emoji that a joiner joins it to. -/
def joinToEmoji? (c : Char) : Option (Int × Context) :=
  if c = '\u20e3' then some (0, .joinedKeycap)
  else if isFlagLetter c then some (1, .joinedFlagLetter)
  else if isSkinTone c then some (0, .skinTone)
  else if c.toNat = 0xE007F then some (0, .tagLetters 0)
  else if isShownAsEmoji c then some (0, .emoji)
  else none

/-- What a character adds before the end of a tag of so many letters. A tag has at most six letters,
or up to four letters behind up to three digits; the flag before it has at least three of one. -/
def joinToTagLetters? (count : Nat) (c : Char) : Option (Int × Context) :=
  if isTagLetter c ∧ count < 6 then some (0, .tagLetters (count + 1))
  else if isTagDigit c ∧ count ≤ 4 then some (0, .tagDigits 1)
  else if isTaggedFlag c ∧ 3 ≤ count then some (0, .emoji)
  else none

/-- What a character adds before so many digits of a tag. -/
def joinToTagDigits? (count : Nat) (c : Char) : Option (Int × Context) :=
  if isTagDigit c ∧ count < 3 then some (0, .tagDigits (count + 1))
  else if isTaggedFlag c ∧ count = 3 then some (0, .emoji)
  else none

/-- What a Kirat Rai sign adds before the vowel sign e, with which it makes one sign. -/
def joinToVowelE? (c : Char) : Option (Int × Context) :=
  match c.toNat with
  | 0x16D63 => some (0, .plain)
  | 0x16D67 => some (0, .vowelAi)
  | 0x16D68 => some (1, .vowelE)
  | 0x16D69 => some (0, .plain)
  | _ => none

/-- What a character adds that becomes one with what is to its right, and what both are together. -/
def join? (c : Char) : Context → Option (Int × Context)
  | .plain => none
  | .emoji => none
  | .skinTone => if takesSkinTone c then some (0, .emoji) else none
  | .flagLetter | .flagLetters => if isFlagLetter c then some (1, .flagLetters) else none
  | .joined => joinToEmoji? c
  | .joinedKeycap => none
  | .joinedFlagLetter | .joinedOddLetters =>
    if isFlagLetter c then some (-1, .joinedEvenLetters) else none
  | .joinedEvenLetters => if isFlagLetter c then some (3, .joinedOddLetters) else none
  | .tagLetters count => joinToTagLetters? count c
  | .tagDigits count => joinToTagDigits? count c
  | .vowelE => joinToVowelE? c
  | .vowelAi => if c.toNat = 0x16D63 then some (0, .plain) else none
  | .wideQuote => if isTwoFormQuote c then some (2, .plain) else none
  | .alef =>
    if isLam c then some (0, .plain) else if isInsideArabic c then some (0, .alef) else none
  | .ligature part joined =>
    if c = joiner then some (0, .ligature part true)
    else if isInsideLigature c then some (0, .ligature part joined)
    else
      (part.join? joined c).map fun (columns, part) =>
        (columns, (part.map fun part => Context.ligature part true).getD .plain)

/-- What a character that is no control character adds before a context, and the context that it
makes. -/
def addBefore (c : Char) (context : Context) : Int × Right :=
  if c = '\ufe0f' then (0, context.withSelector .emoji)
  else if c = '\ufe0e' then (0, context.withSelector .text)
  else if c = joiner ∧ context.takesJoiner then (0, ⟨.joined, none⟩)
  else
    match join? c context with
    | some (columns, context) => (columns, ⟨context, none⟩)
    | none => (charWidth c, ⟨.ofChar c, none⟩)

/-- What a character adds before what stands to its right. A character up to the no-break space
takes one column whatever follows it. -/
def addLeft (c : Char) (right : Right) : Int × Right :=
  if right.selector = some .emoji ∧ hasEmojiForm c then
    (if right.context.isJoined then 0 else 2, ⟨.emoji, none⟩)
  else if right.selector = some .text ∧ hasNarrowForm c then (1, {})
  else if c.toNat ≤ 0xA0 then (1, {})
  else
    addBefore c (if right.selector.isSome then right.context.behindSelector else right.context)

/-- The columns of a text, and what a character to the left of it has to its right. -/
def measure (cs : List Char) : Int × Right :=
  cs.foldr (fun c (columns, right) =>
    let (added, right) := addLeft c right
    (columns + added, right)) (0, {})

/-- The columns of a text on a terminal. -/
def width (cs : List Char) : Nat := (measure cs).1.toNat

private theorem measure_ascii (cs : List Char) (h : ∀ c ∈ cs, c.toNat < 128) :
    measure cs = ((cs.length : Int), {}) := by
  induction cs with
  | nil => rfl
  | cons c cs ih =>
    have hc : c.toNat ≤ 0xA0 := Nat.le_trans (Nat.le_of_lt (h c List.mem_cons_self)) (by decide)
    have hcs := ih fun d hd => h d (List.mem_cons_of_mem c hd)
    unfold measure at hcs ⊢
    rw [List.foldr_cons, hcs]
    simp [addLeft, hc]

/-- ASCII characters take one column each. -/
theorem width_ascii (cs : List Char) (h : ∀ c ∈ cs, c.toNat < 128) : width cs = cs.length := by
  rw [width, measure_ascii cs h, Int.toNat_natCast]

end Agenda.Text
