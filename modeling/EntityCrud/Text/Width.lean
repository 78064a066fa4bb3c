import EntityCrud.Text.Joining
/-! The number of terminal columns that a text takes. The characters are taken from the last to
the first, because what one of them takes can depend on what follows it: a style selector, or
characters that it makes one sign with. -/
namespace EntityCrud.Text

/-- The columns of a character by itself: none for one that combines, two for a wide one, three
for the Khmer sign of continuation, and one for all others. -/
def charWidth (c : Char) : Nat :=
  if inRanges zeroWidthRanges c then 0
  else if inRanges wideRanges c then 2
  else if c == '\u17d8' then 3
  else 1

/-- How a character before a style selector is to be drawn. -/
inductive Style where
  | emoji
  | text
  /-- As wide as a character of an East Asian script. -/
  | full
  deriving DecidableEq, Repr

/-- The style that the character selects. -/
def Style.ofChar? (c : Char) : Option Style :=
  if c == '\ufe0f' then some .emoji
  else if c == '\ufe0e' then some .text
  else if c == '\ufe01' then some .full
  else none

namespace Style

/-- Pictures that can be drawn as text, those in a square aside. -/
def appliesText (c : Char) : Bool :=
  inRanges emojiRanges c && inRanges styledRanges c && !inRanges [(0x1F200, 0x1F2FF)] c

/-- Quotation marks, which are as wide as the text around them. -/
def appliesFull (c : Char) : Bool := inRanges [(0x2018, 0x2019), (0x201C, 0x201D)] c

end Style

/-- What the width of a character depends on besides itself. -/
structure Context where
  following : Following := .other
  /-- The styles selected between the character and what follows. -/
  emoji : Bool := false
  text : Bool := false
  full : Bool := false
  deriving DecidableEq, Repr

namespace Context

/-- A selector between the character and what follows. Only ligatures, and for pictures what is
joined, are still seen through it. -/
def select (style : Style) (context : Context) : Context :=
  let kept := if context.following.isLigature then context else {}
  match style with
  | .emoji => { (if context.following.isJoined then context else kept) with emoji := true }
  | .text => { kept with text := true }
  | .full => { kept with full := true }

/-- What is left for a character to which the picture style does not apply. -/
def withoutEmoji (context : Context) : Context :=
  if !context.emoji then context
  else if context.following.isLigature then { context with emoji := false }
  else {}

/-- The columns that a character adds, and the context for the one before it. -/
def step (c : Char) (context : Context) : Int × Context :=
  if context.emoji && inRanges styledRanges c then
    (if context.following.isJoined then 0 else 2, { following := .emoji })
  else
    let context := context.withoutEmoji
    if c == '\n' then (1, { following := .lineFeed })
    else if c == '\r' && context.following == .lineFeed then (0, {})
    else if c ≤ '\u00a0' then (1, {})
    else match Style.ofChar? c with
      | some style => (0, context.select style)
      | none =>
        if context.text && Style.appliesText c then (1, {})
        else if context.full && Style.appliesFull c then (2, {})
        else
          let (columns, following) :=
            (context.following.join? c).getD (charWidth c, Following.ofChar c)
          (columns, { following })

end Context

/-- The columns of a text, and the context for a character before it. -/
def scan : List Char → Int × Context
  | [] => (0, {})
  | c :: rest =>
    let (total, context) := scan rest
    let (columns, context) := context.step c
    (total + columns, context)

def width (cs : List Char) : Nat := (scan cs).1.toNat

end EntityCrud.Text
