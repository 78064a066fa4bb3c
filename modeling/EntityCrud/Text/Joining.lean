import EntityCrud.Text.EmojiTable
import EntityCrud.Text.Basic
import EntityCrud.Text.WidthTable
/-! Characters that are drawn as one sign together with what follows them: pictures made of
several characters, flags, and the ligatures of some scripts. A joining tells how many columns
such a character adds to those of what follows, so that the whole takes the columns of the sign. -/
namespace EntityCrud.Text

/-- The joiner, which has no width and asks for one sign from the characters around it. -/
def isJoiner (c : Char) : Bool := c == '\u200d'

/-- One of the letters that name a country in pairs, which make a flag. -/
def isFlagLetter (c : Char) : Bool := inRanges [(0x1F1E6, 0x1F1FF)] c

/-- A skin tone, which is a picture by itself and colours one before it. -/
def isSkinTone (c : Char) : Bool := inRanges [(0x1F3FB, 0x1F3FF)] c

/-- The flag that tags after it turn into that of a region. -/
def isTaggedFlag (c : Char) : Bool := c.toNat == 0x1F3F4

def isTagLetter (c : Char) : Bool := inRanges [(0xE0061, 0xE007A)] c

def isTagDigit (c : Char) : Bool := inRanges [(0xE0030, 0xE0039)] c

def isTagEnd (c : Char) : Bool := c.toNat == 0xE007F

/-- The frame of a key, drawn around the character before it. -/
def isKeyFrame (c : Char) : Bool := c == '\u20e3'

def isArabicLam (c : Char) : Bool :=
  inRanges [(0x644, 0x644), (0x6B5, 0x6B8), (0x76A, 0x76A), (0x8A6, 0x8A6), (0x8C7, 0x8C7)] c

def isArabicAlef (c : Char) : Bool :=
  inRanges [(0x622, 0x623), (0x625, 0x625), (0x627, 0x627), (0x671, 0x673), (0x675, 0x675),
    (0x773, 0x774), (0x870, 0x882)] c

/-- The Khmer letters that can stand below the letter before them. -/
def isKhmerLetter (c : Char) : Bool :=
  inRanges [(0x1780, 0x1782), (0x1784, 0x1787), (0x1789, 0x178C), (0x178E, 0x1793),
    (0x1795, 0x1798), (0x179B, 0x179D), (0x17A0, 0x17A0), (0x17A2, 0x17A2), (0x17A7, 0x17A7),
    (0x17AB, 0x17AC), (0x17AF, 0x17AF)] c

def isTifinaghConsonant (c : Char) : Bool := inRanges [(0x2D31, 0x2D65), (0x2D6F, 0x2D6F)] c

/-- Marks that are ignored between the letters of a ligature other than an Arabic one. -/
def isIgnoredMark (c : Char) : Bool :=
  inRanges [(0x34F, 0x34F), (0x17B4, 0x17B5), (0x180B, 0x180D), (0x180F, 0x180F),
    (0xFE00, 0xFE0F), (0xE0100, 0xE01EF)] c

/-- Marks that stand between the two letters of an Arabic ligature. -/
def isTransparentMark (c : Char) : Bool :=
  inRanges zeroWidthRanges c && !inRanges separatingRanges c

/-- The ends of ligatures. -/
inductive Ligature where
  /-- Joins an Arabic lam before it. -/
  | arabicAlef
  /-- Joins a Hebrew alef before it and a joiner. -/
  | hebrewLamed
  /-- Stands below the letter before it and the Khmer sign for that. -/
  | khmerLetter
  /-- Joins a Buginese vowel sign before it and a joiner. -/
  | bugineseYa
  /-- Such a vowel sign, which joins the letter that carries it. -/
  | bugineseVowel
  /-- Joins a Tifinagh consonant before it and a joiner or the Tifinagh sign for that. -/
  | tifinaghConsonant
  /-- The sign together with the consonant after it. -/
  | tifinaghPair
  /-- Joins a Lisu tone before it. -/
  | lisuTone
  /-- Joins the other letter of the one Old Turkic ligature before it and a joiner. -/
  | oldTurkicLetter
  deriving DecidableEq, Repr

/-- What a text begins with, as far as the width of a character before it depends on that. -/
inductive Following where
  | other
  | lineFeed
  | ligature (ending : Ligature) (joiner : Bool)
  /-- A picture. -/
  | emoji
  | skinTone
  /-- A number of letters of flags. -/
  | flagLetters (n : Nat)
  /-- A joiner before a picture, with or without the frame of a key before the joiner. -/
  | joined (frame : Bool)
  /-- A number of letters of flags before a joiner and a picture. -/
  | joinedFlagLetters (n : Nat)
  /-- A number of tag letters before the end of the tags, a joiner and a picture. -/
  | tagLetters (n : Nat)
  /-- A number of tag digits before at most four tag letters. -/
  | tagDigits (n : Nat)
  /-- The vowel sign of Kirat Rai for e, and that for ai, which is two of the first. -/
  | vowelE
  | vowelAi
  deriving DecidableEq, Repr

/-- The end of a ligature that the character can be. -/
def Ligature.ofChar? (c : Char) : Option Ligature :=
  if isArabicAlef c then some .arabicAlef
  else if c == '\u05dc' then some .hebrewLamed
  else if isKhmerLetter c then some .khmerLetter
  else if c == '\u1a10' then some .bugineseYa
  else if isTifinaghConsonant c then some .tifinaghConsonant
  else if c == '\ua4fc' || c == '\ua4fd' then some .lisuTone
  else if c.toNat == 0x10C03 then some .oldTurkicLetter
  else none

namespace Following

/-- What a text begins with whose first character is drawn by itself. -/
def ofChar (c : Char) : Following :=
  if isFlagLetter c then .flagLetters 1
  else if isSkinTone c then .skinTone
  else if inRanges emojiRanges c then .emoji
  else if c.toNat == 0x16D67 then .vowelE
  else if c.toNat == 0x16D68 then .vowelAi
  else match Ligature.ofChar? c with
    | some ending => .ligature ending false
    | none => .other

def isLigature : Following → Bool
  | .ligature .. => true
  | _ => false

def isJoined : Following → Bool
  | .joined _ => true
  | _ => false

/-- A character before the end of a ligature, with a joiner between them or not. -/
def joinLigature? (ending : Ligature) (joiner : Bool) (c : Char) : Option (Int × Following) :=
  if ending = .arabicAlef then
    if isArabicLam c then some (0, .other)
    else if isTransparentMark c then some (0, .ligature ending joiner)
    else none
  else if isJoiner c then some (0, .ligature ending true)
  else if isIgnoredMark c then some (0, .ligature ending joiner)
  else match ending with
    | .hebrewLamed => if joiner && c == '\u05d0' then some (0, .other) else none
    | .khmerLetter => if c == '\u17d2' then some (-1, .other) else none
    | .bugineseYa =>
      if joiner && c == '\u1a17' then some (0, .ligature .bugineseVowel false) else none
    | .bugineseVowel => if c == '\u1a15' then some (0, .other) else none
    | .tifinaghConsonant =>
      if c == '\u2d7f' then some (1, .ligature .tifinaghPair false)
      else if joiner && isTifinaghConsonant c then some (0, .other)
      else none
    | .tifinaghPair => if isTifinaghConsonant c then some (-1, .other) else none
    | .lisuTone => if inRanges [(0xA4F8, 0xA4FB)] c then some (0, .other) else none
    | .oldTurkicLetter => if joiner && c.toNat == 0x10C32 then some (0, .other) else none
    | .arabicAlef => none

/-- A joiner before a picture. -/
def joinEmoji? (c : Char) : Option (Int × Following) :=
  if isJoiner c then some (0, .joined false) else none

/-- A character that makes one sign with what follows it, and the columns it adds. -/
def join? : Following → Char → Option (Int × Following)
  | .other, _ | .lineFeed, _ => none
  | .ligature ending joiner, c => joinLigature? ending joiner c
  | .emoji, c => joinEmoji? c
  | .skinTone, c => if inRanges skinToneBaseRanges c then some (0, .emoji) else joinEmoji? c
  | .flagLetters n, c =>
    if isFlagLetter c then some (1, .flagLetters (n + 1))
    else if 1 < n then joinEmoji? c
    else none
  | .joined true, _ => none
  | .joined false, c =>
    if isKeyFrame c then some (0, .joined true)
    else if isFlagLetter c then some (1, .joinedFlagLetters 1)
    else if isSkinTone c then some (0, .skinTone)
    else if isTagEnd c then some (0, .tagLetters 0)
    else if inRanges emojiRanges c then some (0, .emoji)
    else none
  | .joinedFlagLetters n, c =>
    -- The letters make flags from the left; a flag that ends before the joiner adds nothing.
    if isFlagLetter c then some (if n % 2 = 1 then -1 else 3, .joinedFlagLetters (n + 1))
    else if 1 < n then joinEmoji? c
    else none
  | .tagLetters n, c =>
    if isTagLetter c && decide (n < 6) then some (0, .tagLetters (n + 1))
    else if isTagDigit c && decide (n < 5) then some (0, .tagDigits 1)
    else if isTaggedFlag c && decide (2 < n) then some (0, .emoji)
    else none
  | .tagDigits n, c =>
    if isTagDigit c && decide (n < 3) then some (0, .tagDigits (n + 1))
    else if isTaggedFlag c && decide (2 < n) then some (0, .emoji)
    else none
  | .vowelE, c =>
    if c.toNat == 0x16D63 || c.toNat == 0x16D69 then some (0, .other)
    else if c.toNat == 0x16D67 then some (0, .vowelAi)
    else if c.toNat == 0x16D68 then some (1, .vowelE)
    else none
  | .vowelAi, c => if c.toNat == 0x16D63 then some (0, .other) else none

end Following
end EntityCrud.Text
