import TableFerry.Text.Search
/-!
How many bytes one ideograph takes in a character encoding, which is what sized text columns are stretched
by.
-/
namespace TableFerry.Text

/-- Second names of encodings in which an ideograph does not take three bytes. -/
def encodingAliases : List (String × Nat) := [
  ("932", 2), ("936", 2), ("949", 2), ("950", 2), ("big5_hkscs", 2), ("big5_tw", 2), ("chinese", 2),
  ("cp1361", 2), ("cp936", 2), ("csbig5", 2), ("csiso58gb231280", 2), ("csshiftjis", 2),
  ("euc_cn", 2), ("euc_jis2004", 2), ("euccn", 2), ("eucgb2312_cn", 2), ("eucjis2004", 2),
  ("eucjisx0213", 2), ("eucjp", 2), ("euckr", 2), ("gb18030_2000", 2), ("gb2312_1980", 2),
  ("gb2312_80", 2), ("hkscs", 2), ("iso_ir_58", 2), ("jisx0213", 2), ("korean", 2),
  ("ks_c_5601", 2), ("ks_c_5601_1987", 2), ("ks_x_1001", 2), ("ksc5601", 2), ("ksx1001", 2),
  ("ms1361", 2), ("ms932", 2), ("ms936", 2), ("ms949", 2), ("ms950", 2), ("ms_kanji", 2),
  ("mskanji", 2), ("s_jis", 2), ("s_jis_2004", 2), ("s_jisx0213", 2), ("shiftjis", 2),
  ("shiftjis2004", 2), ("shiftjisx0213", 2), ("sjis", 2), ("sjis_2004", 2), ("sjisx0213", 2),
  ("u_jis", 2), ("uhc", 2), ("ujis", 2), ("unicodebigunmarked", 2), ("unicodelittleunmarked", 2),
  ("utf_16be", 2), ("utf_16le", 2), ("x_mac_japanese", 2), ("x_mac_korean", 2),
  ("x_mac_simp_chinese", 2), ("x_mac_trad_chinese", 2), ("u16", 4), ("utf16", 4), ("utf_32be", 4),
  ("utf_32le", 4), ("u7", 5), ("unicode_1_1_utf_7", 5), ("utf7", 5), ("hz_gb", 6),
  ("hz_gb_2312", 6), ("hzgb", 6), ("csiso2022jp", 8), ("csiso2022kr", 8), ("iso2022jp", 8),
  ("iso2022jp_1", 8), ("iso2022jp_2", 8), ("iso2022jp_2004", 8), ("iso2022jp_3", 8),
  ("iso2022jp_ext", 8), ("iso2022kr", 8), ("iso_2022_jp", 8), ("iso_2022_jp_1", 8),
  ("iso_2022_jp_2", 8), ("iso_2022_jp_2004", 8), ("iso_2022_jp_3", 8), ("iso_2022_jp_ext", 8),
  ("iso_2022_kr", 8), ("u32", 8), ("utf32", 8)]

/-- First names of such encodings. -/
def encodingNames : List (String × Nat) := [
  ("big5", 2), ("big5hkscs", 2), ("cp932", 2), ("cp949", 2), ("cp950", 2), ("euc_jis_2004", 2),
  ("euc_jisx0213", 2), ("euc_jp", 2), ("euc_kr", 2), ("gb18030", 2), ("gb2312", 2), ("gbk", 2),
  ("johab", 2), ("shift_jis", 2), ("shift_jis_2004", 2), ("shift_jisx0213", 2), ("utf_16_be", 2),
  ("utf_16_le", 2), ("utf_16", 4), ("utf_32_be", 4), ("utf_32_le", 4), ("utf_7", 5), ("hz", 6),
  ("raw_unicode_escape", 6), ("unicode_escape", 6), ("utf_8_sig", 6), ("idna", 7),
  ("iso2022_jp", 8), ("iso2022_jp_1", 8), ("iso2022_jp_2", 8), ("iso2022_jp_2004", 8),
  ("iso2022_jp_3", 8), ("iso2022_jp_ext", 8), ("iso2022_kr", 8), ("utf_32", 8)]

/-- Small letters, digits and points, with one underscore for every run of anything else between them;
`gap` tells that such a run was just passed. -/
def normalizeName (started gap : Bool) : List Char → List Char
  | [] => []
  | c :: cs =>
    if isAsciiLetter c || isAsciiDigit c || c = '.' then
      (if gap && started then ['_'] else []) ++ c.toLower :: normalizeName true false cs
    else normalizeName started true cs

/-- The bytes of one ideograph: three for an encoding that is not known or cannot write it. The encoding
named `undefined` is known and refuses every text. -/
def ideographWidth? (encoding : String) : Option Nat :=
  let name := String.ofList (normalizeName false false encoding.toList)
  let pointless := String.ofList (name.toList.map fun c => if c = '.' then '_' else c)
  if name = "undefined" then none
  else
    match (encodingAliases.lookup name).orElse fun _ => encodingAliases.lookup pointless with
    | some width => some width
    | none => some ((encodingNames.lookup name).getD 3)

end TableFerry.Text
