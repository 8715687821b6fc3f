import Std.Data.HashMap
import TagDoc.Text.Basic

/-!
# Folding a text to ASCII

The compatibility decomposition of Unicode 14 takes an accented letter apart into the letter and its accent,
a ligature into its letters, and a letter or digit of another width or style into the plain one. Folding a
text is decomposing it and keeping the ASCII characters. Since decomposing works character by character, and
reordering moves accents only, so does folding.

## Main definitions

* `Text.fold`: the ASCII characters of a text's compatibility decomposition
-/

namespace TagDoc.Text

/-- Runs of consecutive characters that fold to something: the first code point of the run in hexadecimal,
and what each character of the run folds to. -/
def foldRuns : List String :=
  ["A0· ",
  "A8· ",
  "AA·a",
  "AF· ",
  "B2·2·3· ",
  "B8· ·1·o",
  "BC·14·12·34",
  "C0·A·A·A·A·A·A",
  "C7·C·E·E·E·E·I·I·I·I",
  "D1·N·O·O·O·O·O",
  "D9·U·U·U·U·Y",
  "E0·a·a·a·a·a·a",
  "E7·c·e·e·e·e·i·i·i·i",
  "F1·n·o·o·o·o·o",
  "F9·u·u·u·u·y",
  "FF·y·A·a·A·a·A·a·C·c·C·c·C·c·C·c·D·d",
  "112·E·e·E·e·E·e·E·e·E·e·G·g·G·g·G·g·G·g·H·h",
  "128·I·i·I·i·I·i·I·i·I",
  "132·IJ·ij·J·j·K·k",
  "139·L·l·L·l·L·l·L·l",
  "143·N·n·N·n·N·n·n",
  "14C·O·o·O·o·O·o",
  "154·R·r·R·r·R·r·S·s·S·s·S·s·S·s·T·t·T·t",
  "168·U·u·U·u·U·u·U·u·U·u·U·u·W·w·Y·y·Y·Z·z·Z·z·Z·z·s",
  "1A0·O·o",
  "1AF·U·u",
  "1C4·DZ·Dz·dz·LJ·Lj·lj·NJ·Nj·nj·A·a·I·i·O·o·U·u·U·u·U·u·U·u·U·u",
  "1DE·A·a·A·a",
  "1E6·G·g·K·k·O·o·O·o",
  "1F0·j·DZ·Dz·dz·G·g",
  "1F8·N·n·A·a",
  "200·A·a·A·a·E·e·E·e·I·i·I·i·O·o·O·o·R·r·R·r·U·u·U·u·S·s·T·t",
  "21E·H·h",
  "226·A·a·E·e·O·o·O·o·O·o·O·o·Y·y",
  "2B0·h",
  "2B2·j·r",
  "2B7·w·y",
  "2D8· · · · · · ",
  "2E1·l·s·x",
  "37A· ",
  "37E·;",
  "384· · ",
  "1D2C·A",
  "1D2E·B",
  "1D30·D·E",
  "1D33·G·H·I·J·K·L·M·N",
  "1D3C·O",
  "1D3E·P·R·T·U·W·a",
  "1D47·b·d·e",
  "1D4D·g",
  "1D4F·k·m",
  "1D52·o",
  "1D56·p·t·u",
  "1D5B·v",
  "1D62·i·r·u·v",
  "1D9C·c",
  "1DA0·f",
  "1DBB·z",
  "1E00·A·a·B·b·B·b·B·b·C·c·D·d·D·d·D·d·D·d·D·d·E·e·E·e·E·e·E·e·E·e·F·f·G·g·H·h·H·h·H·h·H·h·H·h·I·i·I·i",
  "1E30·K·k·K·k·K·k·L·l·L·l·L·l·L·l·M·m·M·m·M·m·N·n·N·n·N·n·N·n·O·o·O·o·O·o·O·o·P·p·P·p·R·r·R·r·R·r·R·r",
  "1E60·S·s·S·s·S·s·S·s·S·s·T·t·T·t·T·t·T·t·U·u·U·u·U·u·U·u·U·u·V·v·V·v·W·w·W·w·W·w·W·w·W·w·X·x·X·x·Y·y",
  "1E90·Z·z·Z·z·Z·z·h·t·w·y·a·s",
  "1EA0·A·a·A·a·A·a·A·a·A·a·A·a·A·a·A·a·A·a·A·a·A·a·A·a·E·e·E·e·E·e·E·e·E·e·E·e·E·e·E·e·I·i·I·i·O·o·O·o",
  "1ED0·O·o·O·o·O·o·O·o·O·o·O·o·O·o·O·o·O·o·O·o·U·u·U·u·U·u·U·u·U·u·U·u·U·u·Y·y·Y·y·Y·y·Y·y",
  "1FBD· ",
  "1FBF· · · ",
  "1FCD· · · ",
  "1FDD· · · ",
  "1FED· · ·`",
  "1FFD· · ",
  "2000· · · · · · · · · · · ",
  "2017· ",
  "2024·.·..·...",
  "202F· ",
  "203C·!!",
  "203E· ",
  "2047·??·?!·!?",
  "205F· ",
  "2070·0·i",
  "2074·4·5·6·7·8·9·+",
  "207C·=·(·)·n·0·1·2·3·4·5·6·7·8·9·+",
  "208C·=·(·)",
  "2090·a·e·o·x",
  "2095·h·k·l·m·n·p·s·t",
  "20A8·Rs",
  "2100·a/c·a/s·C·C",
  "2105·c/o·c/u",
  "2109·F·g·H·H·H·h",
  "2110·I·I·L·l",
  "2115·N·No",
  "2119·P·Q·R·R·R",
  "2120·SM·TEL·TM",
  "2124·Z",
  "2128·Z",
  "212A·K·A·B·C",
  "212F·e·E·F",
  "2133·M·o",
  "2139·i",
  "213B·FAX",
  "2145·D·d·e·i·j",
  "2150·17·19·110·13·23·15·25·35·45·16·56·18·38·58·78·1·I·II·III·IV·V·VI·VII·VIII·IX·X·XI·XII·L·C·D·M·i",
  "2171·ii·iii·iv·v·vi·vii·viii·ix·x·xi·xii·l·c·d·m",
  "2189·03",
  "2260·=",
  "226E·<·>",
  "2460·1·2·3·4·5·6·7·8·9·10·11·12·13·14·15·16·17·18·19·20·(1)·(2)·(3)·(4)·(5)·(6)·(7)·(8)·(9)·(10)",
  "247E·(11)·(12)·(13)·(14)·(15)·(16)·(17)·(18)·(19)·(20)·1.·2.·3.·4.·5.·6.·7.·8.·9.·10.·11.·12.·13.",
  "2495·14.·15.·16.·17.·18.·19.·20.·(a)·(b)·(c)·(d)·(e)·(f)·(g)·(h)·(i)·(j)·(k)·(l)·(m)·(n)·(o)·(p)·(q)",
  "24AD·(r)·(s)·(t)·(u)·(v)·(w)·(x)·(y)·(z)·A·B·C·D·E·F·G·H·I·J·K·L·M·N·O·P·Q·R·S·T·U·V·W·X·Y·Z·a·b·c·d",
  "24D4·e·f·g·h·i·j·k·l·m·n·o·p·q·r·s·t·u·v·w·x·y·z·0",
  "2A74·::=·==·===",
  "2C7C·j·V",
  "3000· ",
  "309B· · ",
  "3200·()·()·()·()·()·()·()·()·()·()·()·()·()·()·()·()·()·()·()·()·()·()·()·()·()·()·()·()·()·()·()",
  "3220·()·()·()·()·()·()·()·()·()·()·()·()·()·()·()·()·()·()·()·()·()·()·()·()·()·()·()·()·()·()·()·()",
  "3240·()·()·()·()",
  "3250·PTE·21·22·23·24·25·26·27·28·29·30·31·32·33·34·35",
  "32B1·36·37·38·39·40·41·42·43·44·45·46·47·48·49·50·1·2·3·4·5·6·7·8·9·10·11·12·Hg·erg·eV·LTD",
  "3358·0·1·2·3·4·5·6·7·8·9·10·11·12·13·14·15·16·17·18·19·20·21·22·23·24·hPa·da·AU·bar·oV·pc·dm·dm2·dm3",
  "337A·IU",
  "3380·pA·nA·A·mA·kA·KB·MB·GB·cal·kcal·pF·nF·F·g·mg·kg·Hz·kHz·MHz·GHz·THz·l·ml·dl·kl·fm·nm·m·mm·cm·km",
  "339F·mm2·cm2·m2·km2·mm3·cm3·m3·km3·ms·ms2·Pa·kPa·MPa·GPa·rad·rads·rads2·ps·ns·s·ms·pV·nV·V·mV·kV·MV",
  "33BA·pW·nW·W·mW·kW·MW·k·M·a.m.·Bq·cc·cd·Ckg·Co.·dB·Gy·ha·HP·in·KK·KM·kt·lm·ln·log·lx·mb·mil·mol·PH",
  "33D8·p.m.·PPM·PR·sr·Sv·Wb·Vm·Am·1·2·3·4·5·6·7·8·9·10·11·12·13·14·15·16·17·18·19·20·21·22·23·24·25·26",
  "33FA·27·28·29·30·31·gal",
  "A7F2·C·F·Q",
  "FB00·ff·fi·fl·ffi·ffl·st·st",
  "FB29·+",
  "FC5E· · · · · · ",
  "FDFA·   · ",
  "FE10·,",
  "FE13·:·;·!·?",
  "FE19·...",
  "FE30·..",
  "FE33·_·_·(·)·\x7b·\x7d",
  "FE47·[·]· · · · ·_·_·_·,",
  "FE52·.",
  "FE54·;·:·?·!",
  "FE59·(·)·\x7b·\x7d",
  "FE5F·#·&·*·+·-·<·>·=",
  "FE68·\\·$·%·@",
  "FE70· ",
  "FE72· ",
  "FE74· ",
  "FE76· ",
  "FE78· ",
  "FE7A· ",
  "FE7C· ",
  "FE7E· ",
  "FF01·!·\"·#·$·%·&·'·(·)·*·+·,·-·.·/·0·1·2·3·4·5·6·7·8·9·:·;·<·=·>·?·@·A·B·C·D·E·F·G·H·I·J·K·L·M·N·O",
  "FF30·P·Q·R·S·T·U·V·W·X·Y·Z·[·\\·]·^·_·`·a·b·c·d·e·f·g·h·i·j·k·l·m·n·o·p·q·r·s·t·u·v·w·x·y·z·\x7b·|",
  "FF5D·\x7d·~",
  "FFE3· ",
  "107A5·q",
  "1D400·A·B·C·D·E·F·G·H·I·J·K·L·M·N·O·P·Q·R·S·T·U·V·W·X·Y·Z·a·b·c·d·e·f·g·h·i·j·k·l·m·n·o·p·q·r·s·t·u",
  "1D42F·v·w·x·y·z·A·B·C·D·E·F·G·H·I·J·K·L·M·N·O·P·Q·R·S·T·U·V·W·X·Y·Z·a·b·c·d·e·f·g",
  "1D456·i·j·k·l·m·n·o·p·q·r·s·t·u·v·w·x·y·z·A·B·C·D·E·F·G·H·I·J·K·L·M·N·O·P·Q·R·S·T·U·V·W·X·Y·Z·a·b·c",
  "1D485·d·e·f·g·h·i·j·k·l·m·n·o·p·q·r·s·t·u·v·w·x·y·z·A",
  "1D49E·C·D",
  "1D4A2·G",
  "1D4A5·J·K",
  "1D4A9·N·O·P·Q",
  "1D4AE·S·T·U·V·W·X·Y·Z·a·b·c·d",
  "1D4BB·f",
  "1D4BD·h·i·j·k·l·m·n",
  "1D4C5·p·q·r·s·t·u·v·w·x·y·z·A·B·C·D·E·F·G·H·I·J·K·L·M·N·O·P·Q·R·S·T·U·V·W·X·Y·Z·a·b·c·d·e·f·g·h·i·j",
  "1D4F4·k·l·m·n·o·p·q·r·s·t·u·v·w·x·y·z·A·B",
  "1D507·D·E·F·G",
  "1D50D·J·K·L·M·N·O·P·Q",
  "1D516·S·T·U·V·W·X·Y",
  "1D51E·a·b·c·d·e·f·g·h·i·j·k·l·m·n·o·p·q·r·s·t·u·v·w·x·y·z·A·B",
  "1D53B·D·E·F·G",
  "1D540·I·J·K·L·M",
  "1D546·O",
  "1D54A·S·T·U·V·W·X·Y",
  "1D552·a·b·c·d·e·f·g·h·i·j·k·l·m·n·o·p·q·r·s·t·u·v·w·x·y·z·A·B·C·D·E·F·G·H·I·J·K·L·M·N·O·P·Q·R·S·T·U",
  "1D581·V·W·X·Y·Z·a·b·c·d·e·f·g·h·i·j·k·l·m·n·o·p·q·r·s·t·u·v·w·x·y·z·A·B·C·D·E·F·G·H·I·J·K·L·M·N·O·P",
  "1D5B0·Q·R·S·T·U·V·W·X·Y·Z·a·b·c·d·e·f·g·h·i·j·k·l·m·n·o·p·q·r·s·t·u·v·w·x·y·z·A·B·C·D·E·F·G·H·I·J·K",
  "1D5DF·L·M·N·O·P·Q·R·S·T·U·V·W·X·Y·Z·a·b·c·d·e·f·g·h·i·j·k·l·m·n·o·p·q·r·s·t·u·v·w·x·y·z·A·B·C·D·E·F",
  "1D60E·G·H·I·J·K·L·M·N·O·P·Q·R·S·T·U·V·W·X·Y·Z·a·b·c·d·e·f·g·h·i·j·k·l·m·n·o·p·q·r·s·t·u·v·w·x·y·z·A",
  "1D63D·B·C·D·E·F·G·H·I·J·K·L·M·N·O·P·Q·R·S·T·U·V·W·X·Y·Z·a·b·c·d·e·f·g·h·i·j·k·l·m·n·o·p·q·r·s·t·u·v",
  "1D66C·w·x·y·z·A·B·C·D·E·F·G·H·I·J·K·L·M·N·O·P·Q·R·S·T·U·V·W·X·Y·Z·a·b·c·d·e·f·g·h·i·j·k·l·m·n·o·p·q",
  "1D69B·r·s·t·u·v·w·x·y·z",
  "1D7CE·0·1·2·3·4·5·6·7·8·9·0·1·2·3·4·5·6·7·8·9·0·1·2·3·4·5·6·7·8·9·0·1·2·3·4·5·6·7·8·9·0·1·2·3·4·5·6",
  "1D7FD·7·8·9",
  "1F100·0.·0,·1,·2,·3,·4,·5,·6,·7,·8,·9,",
  "1F110·(A)·(B)·(C)·(D)·(E)·(F)·(G)·(H)·(I)·(J)·(K)·(L)·(M)·(N)·(O)·(P)·(Q)·(R)·(S)·(T)·(U)·(V)·(W)",
  "1F127·(X)·(Y)·(Z)·S·C·R·CD·WZ",
  "1F130·A·B·C·D·E·F·G·H·I·J·K·L·M·N·O·P·Q·R·S·T·U·V·W·X·Y·Z·HV·MV·SD·SS·PPV·WC",
  "1F16A·MC·MD·MR",
  "1F190·DJ",
  "1FBF0·0·1·2·3·4·5·6·7·8·9"]

/-- The characters outside ASCII that fold to something, with what they fold to. -/
def foldTable : Std.HashMap Nat Text :=
  Std.HashMap.ofList <| foldRuns.flatMap fun run =>
    match splitOn '·' run.toList with
    | [] => []
    | first :: items => items.zipIdx.map fun (item, i) => (readHex first + i, item)

/-- What one character folds to. -/
def foldChar (c : Char) : Text :=
  if c.toNat < 128 then [c] else foldTable.getD c.toNat []

/-- The ASCII characters of a text's compatibility decomposition. -/
def fold (t : Text) : Text := t.flatMap foldChar

theorem foldChar_of_ascii {c : Char} (h : c.toNat < 128) : foldChar c = [c] := by simp [foldChar, h]

/-- Folding leaves a text of ASCII characters as it is. -/
theorem fold_of_ascii {t : Text} (h : ∀ c ∈ t, c.toNat < 128) : fold t = t := by
  induction t with
  | nil => rfl
  | cons c t ih =>
    have hc := foldChar_of_ascii (h c (by simp))
    have ht := ih fun d hd => h d (by simp [hd])
    simp_all [fold]

end TagDoc.Text
