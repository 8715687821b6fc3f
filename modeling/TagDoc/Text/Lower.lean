import TagDoc.Text.CaseRun

/-!
# Small letters

Texts in small letters, by the full case mappings of Unicode 14: a capital I with a dot becomes a letter and a combining
mark, and a capital sigma at the end of a word has a small form of its own.

## Main definitions

* `Text.lower`: the text in small letters
* `Text.plainLetter`: the letter that a character is where case does not count
-/

namespace TagDoc.Text

/-- The runs of capitals with one small letter each. -/
def lowerRuns : List CaseRun := CaseRun.ofRows
  ["C0:23:1:32 D8:7:1:32 100:24:2:1 132:3:2:1 139:8:2:1 14A:23:2:1 178:1:1:-121 179:3:2:1 181:1:1:210",
  "182:2:2:1 186:1:1:206 187:1:1:1 189:2:1:205 18B:1:1:1 18E:1:1:79 18F:1:1:202 190:1:1:203 191:1:1:1",
  "193:1:1:205 194:1:1:207 196:1:1:211 197:1:1:209 198:1:1:1 19C:1:1:211 19D:1:1:213 19F:1:1:214",
  "1A0:3:2:1 1A6:1:1:218 1A7:1:1:1 1A9:1:1:218 1AC:1:1:1 1AE:1:1:218 1AF:1:1:1 1B1:2:1:217 1B3:2:2:1",
  "1B7:1:1:219 1B8:1:1:1 1BC:1:1:1 1C4:1:1:2 1C5:1:1:1 1C7:1:1:2 1C8:1:1:1 1CA:1:1:2 1CB:9:2:1",
  "1DE:9:2:1 1F1:1:1:2 1F2:2:2:1 1F6:1:1:-97 1F7:1:1:-56 1F8:20:2:1 220:1:1:-130 222:9:2:1",
  "23A:1:1:10795 23B:1:1:1 23D:1:1:-163 23E:1:1:10792 241:1:1:1 243:1:1:-195 244:1:1:69 245:1:1:71",
  "246:5:2:1 370:2:2:1 376:1:1:1 37F:1:1:116 386:1:1:38 388:3:1:37 38C:1:1:64 38E:2:1:63 391:17:1:32",
  "3A3:9:1:32 3CF:1:1:8 3D8:12:2:1 3F4:1:1:-60 3F7:1:1:1 3F9:1:1:-7 3FA:1:1:1 3FD:3:1:-130",
  "400:16:1:80 410:32:1:32 460:17:2:1 48A:27:2:1 4C0:1:1:15 4C1:7:2:1 4D0:48:2:1 531:38:1:48",
  "10A0:38:1:7264 10C7:1:1:7264 10CD:1:1:7264 13A0:80:1:38864 13F0:6:1:8 1C90:43:1:-3008",
  "1CBD:3:1:-3008 1E00:75:2:1 1E9E:1:1:-7615 1EA0:48:2:1 1F08:8:1:-8 1F18:6:1:-8 1F28:8:1:-8",
  "1F38:8:1:-8 1F48:6:1:-8 1F59:4:2:-8 1F68:8:1:-8 1F88:8:1:-8 1F98:8:1:-8 1FA8:8:1:-8 1FB8:2:1:-8",
  "1FBA:2:1:-74 1FBC:1:1:-9 1FC8:4:1:-86 1FCC:1:1:-9 1FD8:2:1:-8 1FDA:2:1:-100 1FE8:2:1:-8",
  "1FEA:2:1:-112 1FEC:1:1:-7 1FF8:2:1:-128 1FFA:2:1:-126 1FFC:1:1:-9 2126:1:1:-7517 212A:1:1:-8383",
  "212B:1:1:-8262 2132:1:1:28 2160:16:1:16 2183:1:1:1 24B6:26:1:26 2C00:48:1:48 2C60:1:1:1",
  "2C62:1:1:-10743 2C63:1:1:-3814 2C64:1:1:-10727 2C67:3:2:1 2C6D:1:1:-10780 2C6E:1:1:-10749",
  "2C6F:1:1:-10783 2C70:1:1:-10782 2C72:1:1:1 2C75:1:1:1 2C7E:2:1:-10815 2C80:50:2:1 2CEB:2:2:1",
  "2CF2:1:1:1 A640:23:2:1 A680:14:2:1 A722:7:2:1 A732:31:2:1 A779:2:2:1 A77D:1:1:-35332 A77E:5:2:1",
  "A78B:1:1:1 A78D:1:1:-42280 A790:2:2:1 A796:10:2:1 A7AA:1:1:-42308 A7AB:1:1:-42319 A7AC:1:1:-42315",
  "A7AD:1:1:-42305 A7AE:1:1:-42308 A7B0:1:1:-42258 A7B1:1:1:-42282 A7B2:1:1:-42261 A7B3:1:1:928",
  "A7B4:8:2:1 A7C4:1:1:-48 A7C5:1:1:-42307 A7C6:1:1:-35384 A7C7:2:2:1 A7D0:1:1:1 A7D6:2:2:1",
  "A7F5:1:1:1 FF21:26:1:32 10400:40:1:40 104B0:36:1:40 10570:11:1:39 1057C:15:1:39 1058C:7:1:39",
  "10594:2:1:39 10C80:51:1:64 118A0:32:1:32 16E40:32:1:32 1E900:34:1:34"]

/-- The small letter of one character. -/
def lowerChar (c : Char) : Char :=
  if c.toNat < 128 then c.toLower else ((lowerRuns.find? (·.covers c.toNat)).map (·.map c.toNat)).getD c

/-- Whether a character is a letter with case, as far as this shows in its mappings. -/
def isCased (c : Char) : Bool :=
  lowerChar c != c || lowerRuns.any fun r => r.covers ((c.toNat : Int) - r.offset).toNat

/-- Marks within words that the end of a word is looked for behind. -/
def isWordMark (c : Char) : Bool :=
  c ∈ "\x27.:^\x60¨\u00AD¯´·¸’".toList || (0x300 ≤ c.toNat && c.toNat ≤ 0x36F)

/-- The text in small letters; `before` is what stands before it, the last character first. -/
def lowerAfter (before : Text) : Text → Text
  | [] => []
  | 'İ' :: t => 'i' :: '\u0307' :: lowerAfter ('İ' :: before) t
  | 'Σ' :: t =>
    let ends := (before.dropWhile isWordMark).head?.any isCased && !(t.dropWhile isWordMark).head?.any isCased
    (if ends then 'ς' else 'σ') :: lowerAfter ('Σ' :: before) t
  | c :: t => lowerChar c :: lowerAfter (c :: before) t

/-- The text in small letters. -/
def lower (t : Text) : Text := lowerAfter [] t

/-- The letter that a character is where case does not count. Two forms of the letter i and an old form of the letter s
count as these. -/
def plainLetter (c : Char) : Char :=
  if c == 'İ' || c == 'ı' then 'i' else if c == 'ſ' then 's' else lowerChar c

/-- A text where case does not count. -/
def plainLetters (t : Text) : Text := t.map plainLetter

/-- Whether a character is a letter of ASCII or a digit of it where case does not count. -/
def isPlainAlphanum (c : Char) : Bool := (plainLetter c).isAlphanum

/-- Whether a character is a letter of ASCII where case does not count. -/
def isPlainAlpha (c : Char) : Bool := (plainLetter c).isAlpha

end TagDoc.Text
