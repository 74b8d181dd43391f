import ArrayScene.Text.Ranges

/-!
# Columns

How a text fills the columns of a console: which characters take two columns or none, and how tabs
are filled up with blanks to the next of the stops, which stand every eight columns.
-/
namespace ArrayScene.Text

/-- The ranges of characters that take two columns. -/
def wideRanges : List (Nat × Nat) := [
  (0x1100, 0x115F), (0x231A, 0x231B), (0x2329, 0x232A), (0x23E9, 0x23EC), (0x23F0, 0x23F0),
  (0x23F3, 0x23F3), (0x25FD, 0x25FE), (0x2614, 0x2615), (0x2648, 0x2653), (0x267F, 0x267F),
  (0x2693, 0x2693), (0x26A1, 0x26A1), (0x26AA, 0x26AB), (0x26BD, 0x26BE), (0x26C4, 0x26C5),
  (0x26CE, 0x26CE), (0x26D4, 0x26D4), (0x26EA, 0x26EA), (0x26F2, 0x26F3), (0x26F5, 0x26F5),
  (0x26FA, 0x26FA), (0x26FD, 0x26FD), (0x2705, 0x2705), (0x270A, 0x270B), (0x2728, 0x2728),
  (0x274C, 0x274C), (0x274E, 0x274E), (0x2753, 0x2755), (0x2757, 0x2757), (0x2795, 0x2797),
  (0x27B0, 0x27B0), (0x27BF, 0x27BF), (0x2B1B, 0x2B1C), (0x2B50, 0x2B50), (0x2B55, 0x2B55),
  (0x2E80, 0x303E), (0x3041, 0x4DBF), (0x4E00, 0xA4CF), (0xA960, 0xA97C), (0xAC00, 0xD7A3),
  (0xF900, 0xFAFF), (0xFE10, 0xFE19), (0xFE30, 0xFE6B), (0xFF01, 0xFF60), (0xFFE0, 0xFFE6),
  (0x16FE0, 0x18CFF), (0x1AFF0, 0x1B2FB), (0x1F004, 0x1F004), (0x1F0CF, 0x1F0CF),
  (0x1F18E, 0x1F18E), (0x1F191, 0x1F19A), (0x1F200, 0x1F320), (0x1F32D, 0x1F335),
  (0x1F337, 0x1F37C), (0x1F37E, 0x1F393), (0x1F3A0, 0x1F3CA), (0x1F3CF, 0x1F3D3),
  (0x1F3E0, 0x1F3F0), (0x1F3F4, 0x1F3F4), (0x1F3F8, 0x1F43E), (0x1F440, 0x1F440),
  (0x1F442, 0x1F4FC), (0x1F4FF, 0x1F53D), (0x1F54B, 0x1F54E), (0x1F550, 0x1F567),
  (0x1F57A, 0x1F57A), (0x1F595, 0x1F596), (0x1F5A4, 0x1F5A4), (0x1F5FB, 0x1F64F),
  (0x1F680, 0x1F6C5), (0x1F6CC, 0x1F6CC), (0x1F6D0, 0x1F6D2), (0x1F6D5, 0x1F6D7),
  (0x1F6DC, 0x1F6DF), (0x1F6EB, 0x1F6EC), (0x1F6F4, 0x1F6FC), (0x1F7E0, 0x1F7EB),
  (0x1F7F0, 0x1F7F0), (0x1F90C, 0x1F93A), (0x1F93C, 0x1F945), (0x1F947, 0x1F9FF),
  (0x1FA70, 0x1FAF8), (0x20000, 0x3FFFD)]

/-- The ranges of marks that take no column of their own. -/
def markRanges : List (Nat × Nat) := [
  (0x0, 0x1F), (0x7F, 0x9F), (0x300, 0x36F), (0x483, 0x489), (0x591, 0x5BD), (0x610, 0x61A),
  (0x64B, 0x65F), (0x6D6, 0x6DC), (0x93C, 0x93C), (0x941, 0x948), (0x94D, 0x94D), (0xE31, 0xE31),
  (0xE34, 0xE3A), (0xE47, 0xE4E), (0x1AB0, 0x1ACE), (0x1DC0, 0x1DFF), (0x200B, 0x200F),
  (0x202A, 0x202E), (0x2060, 0x2063), (0x20D0, 0x20F0), (0x302A, 0x302D), (0x3099, 0x309A),
  (0xFE00, 0xFE0F), (0xFE20, 0xFE2F), (0xE0100, 0xE01EF)]

/-- How many columns a character takes. -/
def columns (c : Char) : Nat :=
  if inRanges markRanges c then 0 else if inRanges wideRanges c then 2 else 1

/-- The distance between tab stops. -/
def tabStop : Nat := 8

/-- A text with its tabs filled up, from a column on; every line begins at column 0. -/
def expandFrom (column : Nat) : List Char → List Char
  | [] => []
  | c :: rest =>
    if c = '\t' then
      let filled := tabStop - column % tabStop
      List.replicate filled ' ' ++ expandFrom (column + filled) rest
    else if c = '\n' then c :: expandFrom 0 rest
    else c :: expandFrom (column + columns c) rest

/-- A text with its tabs filled up. -/
def expandTabs (cs : List Char) : List Char := expandFrom 0 cs

theorem expandFrom_of_no_tab {cs : List Char} (h : '\t' ∉ cs) (column : Nat) :
    expandFrom column cs = cs := by
  induction cs generalizing column with
  | nil => rfl
  | cons c rest ih =>
    simp only [List.mem_cons, not_or] at h
    obtain ⟨hc, hr⟩ := h
    simp only [expandFrom, if_neg (Ne.symm hc), ih hr]
    split <;> rfl

end ArrayScene.Text
