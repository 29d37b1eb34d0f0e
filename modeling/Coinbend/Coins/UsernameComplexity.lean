import Coinbend.Coins.PasswordComplexity
import Mathlib.Data.List.TakeWhile

/-!
# User names

`UsernameComplexity` of `username_complexity.py` refuses names that are easily
guessed, among them the names and codes of currencies.  A generated password of
fifteen characters is none of them.
-/

namespace Coinbend
namespace UsernameComplexity

/-- The keys of `get_cryptocurrencies()` that are one lower-case word; a user
name that is compared with the keys is one. -/
def cryptocurrencies : List String :=
  ["42", "888", "bitcoin", "ripple", "litecoin", "auroracoin", "peercoin",
   "dogecoin", "nxt", "mastercoin", "namecoin", "counterparty", "quark",
   "feathercoin", "vertcoin", "primecoin", "novacoin", "spaincoin",
   "infinitecoin", "megacoin", "maxcoin", "darkcoin", "ybcoin", "worldcoin",
   "blackcoin", "aircoin", "devcoin", "mintcoin", "tickets", "ultracoin",
   "anoncoin", "copperlark", "zetacoin", "freicoin", "ixcoin", "terracoin",
   "digitalcoin", "particle", "applecoin", "reddcoin", "unobtanium",
   "fedoracoin", "cachecoin", "potcoin", "monacoin", "billioncoin", "mincoin",
   "unioncoin", "mazacoin", "netcoin", "goldcoin", "huntercoin", "tagcoin",
   "zeitcoin", "securecoin", "pesetacoin", "eccoin", "colossuscoin",
   "memorycoin", "kittehcoin", "sexcoin", "hobonickels", "heavycoin",
   "karmacoin", "digibyte", "redcoin", "fluttercoin", "catcoin", "coin2",
   "klondikecoin", "bbqcoin", "yacoin", "lottocoin", "gpucoin", "myriadcoin",
   "mooncoin", "riecoin", "microcoin", "earthcoin", "florincoin", "topcoin",
   "flappycoin", "usde", "luckycoin", "qubitcoin", "saturncoin", "leafcoin",
   "einsteinium", "execoin", "metiscoin", "fastcoin", "marscoin", "globe",
   "datacoin", "bitgem", "bytecoin", "franko", "elacoin", "qqcoin", "ekrona",
   "takcoin", "globalcoin", "dopecoin", "octocoin", "nyancoin", "batcoin",
   "ebtcoin", "emoticoin", "betacoin", "casinocoin", "smartcoin", "pandacoin",
   "tenfivecoin", "battlecoin", "dnotes", "argentum", "stablecoin",
   "zenithcoin", "ronpaulcoin", "zedcoin", "animecoin", "astrocoin",
   "rubycoin", "asiccoin", "btc", "xrp", "ltc", "aur", "ppc", "doge", "msc",
   "nmc", "pts", "xcp", "qrk", "ftc", "vtc", "xpm", "nvc", "spa", "ifc",
   "mec", "max", "drk", "ybc", "wdc", "bc", "air", "dvc", "mint", "tix",
   "utc", "anc", "clr", "btcs", "zet", "frc", "ixc", "trc", "dgc", "prt",
   "apc", "rdd", "uno", "tips", "cach", "pot", "mona", "bil", "mnc", "unc",
   "mzc", "net", "gld", "cgb", "huc", "tag", "zeit", "src", "ptc", "ecc",
   "col", "mmc", "meow", "sxc", "hbn", "hvc", "karm", "dgb", "red", "flt",
   "cat", "c2", "kdc", "bqc", "yac", "lot", "gpuc", "myrc", "moon", "ric",
   "mrc", "eac", "flo", "topc", "flap", "lky", "q2c", "sat", "leaf", "emc2",
   "exe", "mts", "fst", "phs", "mrs", "glb", "dtc", "btg", "bte", "frk",
   "elc", "qqc", "krn", "tak", "glc", "dope", "dem", "nyan", "bat", "ebt",
   "emo", "bet", "csc", "smc", "pnd", "bcx", "note", "arg", "sbc", "ztc",
   "rpc", "zed", "ani", "asr", "ruby", "asc"]

/-- The keys of `get_fiatcurrencies()` that are one lower-case word. -/
def fiatcurrencies : List String :=
  ["renminbi", "euro", "silver", "gold", "palladium", "platinum", "aed",
   "afn", "all", "amd", "ang", "aoa", "ars", "aud", "awg", "azn", "bam",
   "bbd", "bgn", "bhd", "bif", "bmd", "bnd", "bob", "bsd", "btn", "bwp",
   "byr", "bzd", "cad", "cdf", "che", "chf", "chw", "clf", "clp", "cny",
   "cop", "cou", "cup", "cve", "djf", "dkk", "dop", "dzd", "egp", "ern",
   "etb", "eur", "fjd", "gbp", "gel", "ghs", "gmd", "gnf", "gtq", "gyd",
   "hkd", "hnl", "hrk", "htg", "huf", "idr", "ils", "inr", "iqd", "irr",
   "isk", "jmd", "jod", "jpy", "kes", "kgs", "khr", "kmf", "krw", "kwd",
   "kyd", "kzt", "lak", "lbp", "lkr", "lrd", "lsl", "ltl", "lyd", "mad",
   "mdl", "mga", "mmk", "mop", "mro", "mvr", "mwk", "mxn", "mxv", "myr",
   "mzn", "nad", "ngn", "nio", "nok", "npr", "nzd", "omr", "pab", "pen",
   "pgk", "php", "pkr", "pln", "pyg", "qar", "ron", "rub", "rwf", "sar",
   "sbd", "scr", "sek", "sgd", "shp", "sll", "sos", "srd", "ssp", "std",
   "syp", "szl", "thb", "tjs", "tmt", "top", "try", "ttd", "twd", "tzs",
   "uha", "ugx", "usd", "usn", "uzs", "vnd", "vuv", "wst", "xag", "xau",
   "xba", "xdr", "xfu", "xof", "xpd", "xpf", "xpt", "xts", "zar", "zmw"]

def invalidUsers : List String :=
  ["user", "smtp", "email", "proxy", "default", "ftp", "apache", "www-data",
   "coinbend", "staff", "support", "contact", "ssh", "root", "admin",
   "administrator", "yoshimitsu", "god", "naruto", "mysql", "system", "guest",
   "operator", "super", "ssh", "test", "qa", "testingsatoshi", "phpmyadmin",
   "pma", "btc", "ltc", "bitcoin", "litecoin", "", " ", "\r\n", "\n"] ++
  cryptocurrencies ++ fiatcurrencies

/-- The letters of `[a-zA-Z0-9_]`. -/
def isWordChar (char : Char) : Bool :=
  char.isAlphanum || char = '_'

/-- The lower case of a character.  Of the characters outside of ASCII only the
Kelvin sign has a lower case that a user name may have. -/
def lowerChar (char : Char) : Char :=
  if char = '\u212a' then 'k' else char.toLower

/-- `is_valid`; a text of other digits than the ten is refused by the pattern. -/
def isValid (username : Text) : Bool :=
  if username ≠ [] ∧ username.all Char.isDigit = true then false
  else
    let username := username.map lowerChar
    if username.takeWhile isWordChar = [] ∨
        endOfText (username.dropWhile isWordChar) = false then false
    else !invalidUsers.contains (String.ofList username)

theorem length_invalidUsers :
    (invalidUsers.all fun user => user.length != 15) = true := by
  decide +kernel

/-- The characters of generated names. -/
def letters : Text :=
  PasswordComplexity.uppercase ++ PasswordComplexity.lowercase ++
    "0123456789".toList

theorem isWordChar_lowerChar :
    (letters.all fun char => isWordChar (lowerChar char)) = true := by
  decide

/-- A name of fifteen letters and digits is valid unless it is a number. -/
theorem isValid_of_letters
    {username : Text}
    (length : username.length = 15)
    (alphanumeric : ∀ char ∈ username, char ∈ letters)
    (letter : ∃ char ∈ username, char.isDigit = false) :
    isValid username = true := by
  have words : ∀ char ∈ username.map lowerChar, isWordChar char = true := by
    intro lower listed
    obtain ⟨char, char_listed, rfl⟩ := List.mem_map.mp listed
    exact List.all_eq_true.mp isWordChar_lowerChar char
      (alphanumeric char char_listed)
  have lower_length : (username.map lowerChar).length = 15 := by
    rw [List.length_map, length]
  have numberless : ¬(username ≠ [] ∧ username.all Char.isDigit = true) := by
    rintro ⟨-, number⟩
    obtain ⟨char, listed, other⟩ := letter
    rw [List.all_eq_true.mp number char listed] at other
    cases other
  have whole : (username.map lowerChar).takeWhile isWordChar =
      username.map lowerChar := List.takeWhile_eq_self_iff.mpr words
  have rest : (username.map lowerChar).dropWhile isWordChar = [] :=
    List.dropWhile_eq_nil_iff.mpr words
  have matched : ¬((username.map lowerChar).takeWhile isWordChar = [] ∨
      endOfText ((username.map lowerChar).dropWhile isWordChar) = false) := by
    rw [whole, rest, not_or]
    constructor
    · intro empty
      rw [empty] at lower_length
      cases lower_length
    · decide
  have other : invalidUsers.contains
      (String.ofList (username.map lowerChar)) = false := by
    rw [← Bool.not_eq_true, List.contains_iff_mem]
    intro listed
    have different := List.all_eq_true.mp length_invalidUsers _ listed
    rw [String.length_ofList, lower_length] at different
    cases different
  simp only [isValid, if_neg numberless, if_neg matched, other]
  rfl

end UsernameComplexity
end Coinbend
