import Coinbend.Library.DigitText
import Coinbend.Library.Words
import Coinbend.Protocol.Routes

/-!
# Open orders as text

`new_open_order` writes an order and its routes with two signatures and a proof
of work, and `parse_open_order` takes the line apart with one expression.  Where
the texts of a line have no spaces the expression can only start at the name of
the message, so it finds exactly these texts, each where its group takes it.
-/

namespace Coinbend

open Regex

/-! ## The parts of the expression -/

namespace RoutePattern

theorem takes_digits
    (least : Nat)
    (most : Option Nat)
    (some_number : ∀ bound ∈ most, least ≤ bound) :
    (digits least most).Takes (digits least most).Accepts :=
  (Pattern.takes_many_one _ _ _ some_number).accepts

theorem takes_solid
    (least : Nat)
    (most : Option Nat)
    (some_number : ∀ bound ∈ most, least ≤ bound) :
    (solid least most).Takes (solid least most).Accepts :=
  (Pattern.takes_many_one _ _ _ some_number).accepts

theorem takes_alphanumeric
    (least : Nat)
    (most : Option Nat)
    (some_number : ∀ bound ∈ most, least ≤ bound) :
    (alphanumeric least most).Takes (alphanumeric least most).Accepts :=
  (Pattern.takes_many_one _ _ _ some_number).accepts

theorem takes_currency : currency.Takes currency.Accepts :=
  (Pattern.takes_many_one _ _ _ (by simp)).accepts

/-- Up to nineteen digits, and up to sixteen after a point. -/
def IsAmount (word : Text) : Prop :=
  ∃ whole fraction, DigitText.Digits whole ∧
    (1 ≤ whole.length ∧ whole.length ≤ 19) ∧ word = whole ++ fraction ∧
    (fraction = [] ∨ ∃ places, fraction = '.' :: places ∧
      DigitText.Digits places ∧ 1 ≤ places.length ∧ places.length ≤ 16)

theorem takes_isAmount : amount.Takes IsAmount := by
  have point := Pattern.takes_symbol '.'
  have places := Pattern.takes_many_one Char.isDigit 1 (some 16) (by simp)
  have fraction := (point.append (places.append Pattern.takes_empty)).many_some
    (Nat.zero_le 1)
  have takes := (Pattern.takes_many_one Char.isDigit 1 (some 19) (by simp)).append
    (fraction.append Pattern.takes_empty)
  refine Pattern.Takes.congr takes fun word => ?_
  constructor
  · rintro ⟨whole, _, ⟨areDigits, some_digit, short⟩, ⟨_, _,
      ⟨parts, inside, ⟨-, single⟩, rfl⟩, rfl, rfl⟩, rfl⟩
    refine ⟨whole, parts.flatten ++ [], areDigits, ⟨some_digit, short 19 rfl⟩,
      rfl, ?_⟩
    match parts, single with
    | [], _ => exact Or.inl rfl
    | [part], _ =>
        obtain ⟨_, _, rfl, ⟨places, _, ⟨places_digits, some_place, few⟩, rfl,
          rfl⟩, rfl⟩ := inside part (List.mem_singleton_self part)
        exact Or.inr ⟨places, by simp, places_digits, some_place, few 16 rfl⟩
    | _ :: _ :: more, single => simp at single
  · rintro ⟨whole, fraction, areDigits, ⟨some_digit, short⟩, rfl, fraction_eq⟩
    refine ⟨whole, fraction, ⟨areDigits, some_digit, by simpa using short⟩,
      ⟨fraction, [], ?_, rfl, (List.append_nil _).symm⟩, rfl⟩
    rcases fraction_eq with rfl | ⟨places, rfl, places_digits, some_place, few⟩
    · exact ⟨[], by simp, by simp, rfl⟩
    · refine ⟨['.' :: places], ?_, by simp, by simp⟩
      rw [List.forall_mem_singleton]
      exact ⟨['.'], places, rfl, ⟨places, [], ⟨places_digits, some_place,
        by simpa using few⟩, rfl, (List.append_nil _).symm⟩, rfl⟩

theorem takes_amount : amount.Takes amount.Accepts :=
  takes_isAmount.accepts

theorem chars_of_amount
    {word : Text}
    (accepted : amount.Accepts word) :
    ∀ char ∈ word, char.isDigit = true ∨ char = '.' := by
  obtain ⟨whole, fraction, areDigits, -, rfl, fraction_eq⟩ :=
    (takes_isAmount.accepts_iff word).mp accepted
  intro char member
  rcases List.mem_append.mp member with inside | inside
  · exact Or.inl (areDigits char inside)
  · rcases fraction_eq with rfl | ⟨places, rfl, places_digits, -⟩
    · cases inside
    · rcases List.mem_cons.mp inside with point | later
      · exact Or.inr point
      · exact Or.inl (places_digits char later)

theorem takes_dotted
    (most : Option Nat)
    (some_number : ∀ bound ∈ most, 1 ≤ bound) :
    (dotted most).Takes (dotted most).Accepts := by
  have point := Pattern.takes_symbol '.'
  have run := takes_digits 1 most some_number
  have takes := run.append (point.append (run.append (point.append
    (run.append (point.append (run.append Pattern.takes_empty))))))
  exact Pattern.Takes.accepts takes

theorem takes_kind : kind.Takes kind.Accepts := by
  have takes := (Pattern.takes_literal "passive".toList).either
    ((Pattern.takes_literal "simultaneous".toList).either
      (Pattern.takes_literal "relay".toList))
  exact Pattern.Takes.accepts takes

/-- The routes of a message are words of their own. -/
theorem takes_routes
    {server : Pattern Char}
    {servers : Text → Prop}
    (server_takes : server.Takes servers) :
    (routes server).Takes (routes server).Accepts := by
  have space_takes : space.Takes _ := Pattern.takes_symbol ' '
  have port := takes_digits 1 (some 5) (by simp)
  have next := (space_takes.append (server_takes.append (space_takes.append
    (port.append Pattern.takes_empty)))).many_some (Nat.zero_le 1)
  have comma := (Pattern.takes_symbol ',').many_some (Nat.zero_le 1)
  have one_route := comma.append ((Pattern.takes_symbol '[').append
    (takes_kind.append (space_takes.append
      ((takes_dotted (some 3) (by simp)).append (space_takes.append
        (port.append (next.append
          ((Pattern.takes_symbol ']').append Pattern.takes_empty))))))))
  have takes := one_route.many (by
    rintro ⟨start, _, -, ⟨_, later, rfl, -, rfl⟩, empty⟩
    have opened : '[' ∈ ([] : Text) := by
      rw [empty]
      simp
    cases opened) 1
  exact Pattern.Takes.accepts takes

/-- A repeated class does not take what the class does not accept. -/
theorem notMem_of_accepts
    {accepts : Char → Bool}
    {least : Nat}
    {most : Option Nat}
    (some_number : ∀ bound ∈ most, least ≤ bound)
    {word : Text}
    (accepted : (Pattern.many least most (.one accepts)).Accepts word)
    {char : Char}
    (refused : accepts char = false) :
    char ∉ word := by
  rw [(Pattern.takes_many_one accepts least most some_number).accepts_iff]
    at accepted
  intro member
  rw [accepted.1 char member] at refused
  cases refused

/-- `buy|sell`. -/
def action : Pattern Char :=
  .either (.literal "buy".toList) (.literal "sell".toList)

theorem takes_action :
    action.Takes (fun word => word = "buy".toList ∨ word = "sell".toList) :=
  (Pattern.takes_literal "buy".toList).either
    (Pattern.takes_literal "sell".toList)

theorem accepts_action_iff {word : Text} :
    action.Accepts word ↔ word = "buy".toList ∨ word = "sell".toList :=
  takes_action.accepts_iff word

/-- The groups of `parse_open_order` after the name of the message, each with
the character in front of it. -/
def openOrderParts : List (Char × Pattern Char) :=
  [(' ', action), (' ', currency), ('/', currency), (' ', amount),
    (' ', amount), (' ', routes (solid 1 (some 255))),
    (' ', alphanumeric 1 none), (' ', alphanumeric 1 (some 40)),
    (' ', solid 1 (some 256)), (' ', solid 1 (some 256)),
    (' ', solid 1 (some 256)), (' ', solid 1 (some 256)),
    (' ', solid 1 (some 256)), (' ', digits 1 (some 100))]

theorem openOrder_eq :
    openOrder = .sequence (.group (.literal "open_order".toList) ::
      (Pattern.fields openOrderParts ++ [.atEnd endOfText])) := rfl

theorem takes_openOrderParts :
    ∀ part ∈ openOrderParts, part.2.Takes part.2.Accepts := by
  have routes_takes := takes_routes (takes_solid 1 (some 255) (by simp))
  have txid_takes := takes_alphanumeric 1 none (by simp)
  have address_takes := takes_alphanumeric 1 (some 40) (by simp)
  have key_takes := takes_solid 1 (some 256) (by simp)
  have nonce_takes := takes_digits 1 (some 100) (by simp)
  simp only [openOrderParts, List.forall_mem_cons]
  exact ⟨takes_action.accepts, takes_currency, takes_currency, takes_amount,
    takes_amount, routes_takes, txid_takes, address_takes, key_takes,
    key_takes, key_takes, key_takes, key_takes, nonce_takes, by simp⟩

end RoutePattern

/-! ## Where the expression can start -/

def openOrderName : Text := "open_order".toList

/-- An order does not start at the end of a word, with the next word as its
action. -/
def Calm (word next : Text) : Prop :=
  openOrderName <:+ word → ¬RoutePattern.action.Accepts next

theorem calm_of_word
    {word next : Text}
    (absent : 'o' ∉ word) :
    Calm word next := by
  intro ended
  exact absurd (ended.subset (by decide)) absent

theorem calm_of_next
    {word next : Text}
    (no_buy : 'b' ∉ next)
    (no_sell : 's' ∉ next) :
    Calm word next := by
  intro _ accepted
  rcases RoutePattern.accepts_action_iff.mp accepted with rfl | rfl
  · exact no_buy (by decide)
  · exact no_sell (by decide)

/-! ## The words of formatted routes -/

namespace Route

/-- The words of a route, without the space in front of it. -/
def words (route : Route) : List Text :=
  ('[' :: route.kind) :: route.addr ::
    (match route.next with
      | some (addr, port) =>
          [Nat.toDigits 10 route.port, addr, Nat.toDigits 10 port ++ [']']]
      | none => [Nat.toDigits 10 route.port ++ [']']])

/-- A route of one of the kinds of node, with names that have no spaces. -/
structure Plain (route : Route) : Prop where
  kind : route.kind ∈
    ["passive".toList, "simultaneous".toList, "relay".toList]
  addr : ' ' ∉ route.addr
  next : ∀ next ∈ route.next, ' ' ∉ next.1

theorem space_notMem_digits (number : Nat) : ' ' ∉ Nat.toDigits 10 number :=
  (DigitText.digits_toDigits number).notMem rfl

theorem splitOn_text
    {route : Route}
    (plain : route.Plain)
    {word : Text}
    (word_plain : ' ' ∉ word)
    {rest : Text}
    {later : List Text}
    (ends : ∀ last : Text, ' ' ∉ last →
      (last ++ rest).splitOn ' ' = last :: later) :
    (word ++ (route.text ++ rest)).splitOn ' ' =
      word :: (route.words ++ later) := by
  have kind_plain : ' ' ∉ '[' :: route.kind := by
    have kinds := plain.kind
    simp only [List.mem_cons, List.not_mem_nil, or_false] at kinds
    rcases kinds with kind | kind | kind <;> rw [kind] <;> decide
  have last_plain (port : Nat) : ' ' ∉ Nat.toDigits 10 port ++ [']'] := by
    simp [space_notMem_digits]
  unfold text words
  cases next : route.next with
  | none =>
      have nested : word ++ (" [".toList ++ route.kind ++ ' ' :: route.addr ++
          ' ' :: Nat.toDigits 10 route.port ++ [] ++ [']'] ++ rest) =
          word ++ ' ' :: (('[' :: route.kind) ++ ' ' :: (route.addr ++
            ' ' :: ((Nat.toDigits 10 route.port ++ [']']) ++ rest))) := by
        simp
      dsimp only
      rw [nested, List.splitOn_append_cons_self_of_not_mem word_plain,
        List.splitOn_append_cons_self_of_not_mem kind_plain,
        List.splitOn_append_cons_self_of_not_mem plain.addr,
        ends _ (last_plain _)]
      rfl
  | some next_hop =>
      obtain ⟨addr, port⟩ := next_hop
      have next_plain := plain.next _ next
      have nested : word ++ (" [".toList ++ route.kind ++ ' ' :: route.addr ++
          ' ' :: Nat.toDigits 10 route.port ++
          (' ' :: addr ++ ' ' :: Nat.toDigits 10 port) ++ [']'] ++ rest) =
          word ++ ' ' :: (('[' :: route.kind) ++ ' ' :: (route.addr ++
            ' ' :: (Nat.toDigits 10 route.port ++ ' ' :: (addr ++
              ' ' :: ((Nat.toDigits 10 port ++ [']']) ++ rest))))) := by
        simp
      dsimp only
      rw [nested, List.splitOn_append_cons_self_of_not_mem word_plain,
        List.splitOn_append_cons_self_of_not_mem kind_plain,
        List.splitOn_append_cons_self_of_not_mem plain.addr,
        List.splitOn_append_cons_self_of_not_mem (space_notMem_digits _),
        List.splitOn_append_cons_self_of_not_mem next_plain,
        ends _ (last_plain _)]
      rfl

/-- The words of routes between a word and more text. -/
theorem splitOn_formatted
    {formatted : List Route}
    (plain : ∀ route ∈ formatted, route.Plain)
    {word : Text}
    (word_plain : ' ' ∉ word)
    (rest : Text) :
    (word ++ (formatted.flatMap Route.text ++ ' ' :: rest)).splitOn ' ' =
      word :: (formatted.flatMap Route.words ++ rest.splitOn ' ') := by
  induction formatted generalizing word with
  | nil => exact List.splitOn_append_cons_self_of_not_mem word_plain rest
  | cons route formatted hypothesis =>
      obtain ⟨route_plain, others⟩ := List.forall_mem_cons.mp plain
      rw [List.flatMap_cons, List.flatMap_cons, List.append_assoc,
        List.append_assoc]
      exact splitOn_text route_plain word_plain fun last last_plain =>
        hypothesis others last_plain

/-- No order starts in formatted routes. -/
theorem isChain_formatted
    {formatted : List Route}
    (plain : ∀ route ∈ formatted, route.Plain)
    {word : Text}
    (calm : ∀ next, Calm word next)
    (last : Text) :
    List.IsChain Calm (word :: (formatted.flatMap Route.words ++ [last])) := by
  have closed_word (port : Nat) (next : Text) :
      Calm (Nat.toDigits 10 port ++ [']']) next := by
    apply calm_of_word
    simp [(DigitText.digits_toDigits port).notMem
        (show 'o'.isDigit = false from rfl)]
  have closed_next (word : Text) (port : Nat) :
      Calm word (Nat.toDigits 10 port ++ [']']) := by
    apply calm_of_next
    · simp [(DigitText.digits_toDigits port).notMem
        (show 'b'.isDigit = false from rfl)]
    · simp [(DigitText.digits_toDigits port).notMem
        (show 's'.isDigit = false from rfl)]
  induction formatted generalizing word with
  | nil => exact List.isChain_pair.mpr (calm last)
  | cons route formatted hypothesis =>
      obtain ⟨route_plain, others⟩ := List.forall_mem_cons.mp plain
      have kind_calm (next : Text) : Calm ('[' :: route.kind) next := by
        have kinds := route_plain.kind
        simp only [List.mem_cons, List.not_mem_nil, or_false] at kinds
        intro ended
        rcases kinds with kind | kind | kind <;> rw [kind] at ended <;>
          exact absurd ended (by decide)
      have later := fun port => hypothesis others (closed_word port)
      rw [List.flatMap_cons, List.append_assoc]
      unfold words
      split
      next next_addr next_port _ =>
        have port_word := (DigitText.digits_toDigits route.port)
        exact .cons_cons (calm _) (.cons_cons (kind_calm _) (.cons_cons
          (calm_of_next (port_word.notMem rfl) (port_word.notMem rfl))
          (.cons_cons (calm_of_word (port_word.notMem rfl))
            (.cons_cons (closed_next _ _) (later _)))))
      next =>
        exact .cons_cons (calm _) (.cons_cons (kind_calm _)
          (.cons_cons (closed_next _ _) (later _)))

/-- A formatted text without the space in front of it. -/
theorem splitOn_routes
    {formatted : List Route}
    (plain : ∀ route ∈ formatted, route.Plain)
    {routes : Text}
    (formats : formatted.flatMap Route.text = ' ' :: routes) :
    routes.splitOn ' ' = formatted.flatMap Route.words := by
  have words := splitOn_formatted plain (List.not_mem_nil (a := ' ')) []
  rw [formats, List.nil_append, List.cons_append, ← List.nil_append (' ' :: _),
    List.splitOn_append_cons_self_of_not_mem List.not_mem_nil,
    List.splitOn_append_cons_self, List.cons.injEq] at words
  exact List.append_cancel_right words.2

end Route

/-! ## The texts of an order -/

/-- The groups of the expression after the name of the message. -/
structure OrderTexts where
  action : Text
  base : Text
  quote : Text
  amount : Text
  ppc : Text
  routes : Text
  depositTxid : Text
  address : Text
  pubKey1 : Text
  pubKey2 : Text
  serverPubKey : Text
  sig1 : Text
  sig2 : Text
  nonce : Text

namespace OrderTexts

def toList (texts : OrderTexts) : List Text :=
  [texts.action, texts.base, texts.quote, texts.amount, texts.ppc,
    texts.routes, texts.depositTxid, texts.address, texts.pubKey1,
    texts.pubKey2, texts.serverPubKey, texts.sig1, texts.sig2, texts.nonce]

/-- The end of the line from the name of the message on. -/
def text (texts : OrderTexts) (rest : Text) : Text :=
  openOrderName ++
    (Pattern.fieldsText RoutePattern.openOrderParts texts.toList ++ rest)

/-- The line of an order. -/
def line (texts : OrderTexts) (version ntp : Nat) : Text :=
  Nat.toDigits 10 version ++
    ' ' :: (Nat.toDigits 10 ntp ++ ' ' :: texts.text [])

/-- Every text is one its group takes. -/
structure Valid (texts : OrderTexts) : Prop where
  action : RoutePattern.action.Accepts texts.action
  base : RoutePattern.currency.Accepts texts.base
  quote : RoutePattern.currency.Accepts texts.quote
  amount : RoutePattern.amount.Accepts texts.amount
  ppc : RoutePattern.amount.Accepts texts.ppc
  routes : (RoutePattern.routes (RoutePattern.solid 1 (some 255))).Accepts
    texts.routes
  depositTxid : (RoutePattern.alphanumeric 1 none).Accepts texts.depositTxid
  address : (RoutePattern.alphanumeric 1 (some 40)).Accepts texts.address
  pubKey1 : (RoutePattern.solid 1 (some 256)).Accepts texts.pubKey1
  pubKey2 : (RoutePattern.solid 1 (some 256)).Accepts texts.pubKey2
  serverPubKey : (RoutePattern.solid 1 (some 256)).Accepts texts.serverPubKey
  sig1 : (RoutePattern.solid 1 (some 256)).Accepts texts.sig1
  sig2 : (RoutePattern.solid 1 (some 256)).Accepts texts.sig2
  nonce : (RoutePattern.digits 1 (some 100)).Accepts texts.nonce

theorem forall₂_iff
    {words : List Text} :
    List.Forall₂ (fun part word => part.2.Accepts word)
        RoutePattern.openOrderParts words ↔
      ∃ texts : OrderTexts, texts.Valid ∧ words = texts.toList := by
  simp only [RoutePattern.openOrderParts, List.forall₂_cons_left_iff,
    List.forall₂_nil_left_iff]
  constructor
  · rintro ⟨action, _, isAction, ⟨base, _, isBase, ⟨quote, _, isQuote,
      ⟨amount, _, isAmount, ⟨ppc, _, isPpc, ⟨routes, _, areRoutes,
      ⟨depositTxid, _, isTxid, ⟨address, _, isAddress,
      ⟨pubKey1, _, isPubKey1, ⟨pubKey2, _, isPubKey2,
      ⟨serverPubKey, _, isServerPubKey, ⟨sig1, _, isSig1,
      ⟨sig2, _, isSig2, ⟨nonce, _, isNonce, rfl, rfl⟩, rfl⟩, rfl⟩, rfl⟩, rfl⟩,
      rfl⟩, rfl⟩, rfl⟩, rfl⟩, rfl⟩, rfl⟩, rfl⟩, rfl⟩, rfl⟩
    exact ⟨⟨action, base, quote, amount, ppc, routes, depositTxid, address,
      pubKey1, pubKey2, serverPubKey, sig1, sig2, nonce⟩,
      ⟨isAction, isBase, isQuote, isAmount, isPpc, areRoutes, isTxid,
        isAddress, isPubKey1, isPubKey2, isServerPubKey, isSig1, isSig2,
        isNonce⟩, rfl⟩
  · rintro ⟨texts, valid, rfl⟩
    exact ⟨_, _, valid.action, ⟨_, _, valid.base, ⟨_, _, valid.quote,
      ⟨_, _, valid.amount, ⟨_, _, valid.ppc, ⟨_, _, valid.routes,
      ⟨_, _, valid.depositTxid, ⟨_, _, valid.address, ⟨_, _, valid.pubKey1,
      ⟨_, _, valid.pubKey2, ⟨_, _, valid.serverPubKey, ⟨_, _, valid.sig1,
      ⟨_, _, valid.sig2, ⟨_, _, valid.nonce, rfl, rfl⟩, rfl⟩, rfl⟩, rfl⟩,
      rfl⟩, rfl⟩, rfl⟩, rfl⟩, rfl⟩, rfl⟩, rfl⟩, rfl⟩, rfl⟩, rfl⟩

/-- The matches of the expression are the ends of lines with valid texts. -/
theorem reads_openOrder_iff
    {here : Text}
    {groups : List Text} :
    RoutePattern.openOrder.Reads here groups ↔
      ∃ (texts : OrderTexts) (rest : Text), texts.Valid ∧
        endOfText rest = true ∧ here = texts.text rest ∧
        groups = openOrderName :: texts.toList := by
  rw [RoutePattern.openOrder_eq]
  simp only [(Pattern.takes_literal _).reads_group_cons,
    Pattern.reads_fields_append RoutePattern.takes_openOrderParts,
    Pattern.reads_atEnd_cons, Pattern.reads_nil, forall₂_iff]
  constructor
  · rintro ⟨_, _, _, rfl, rfl, rfl, _, rest, _, ⟨texts, valid, rfl⟩, rfl, rfl,
      ended, rfl⟩
    exact ⟨texts, rest, valid, ended, rfl, congrArg _ (List.append_nil _)⟩
  · rintro ⟨texts, rest, valid, ended, rfl, rfl⟩
    exact ⟨_, _, _, rfl, rfl, rfl, _, rest, _, ⟨texts, valid, rfl⟩, rfl,
      (List.append_nil _).symm, ended, rfl⟩

/-! ## The words of a line -/

/-- The texts but the routes have no spaces. -/
structure Plain (texts : OrderTexts) : Prop where
  action : ' ' ∉ texts.action
  base : ' ' ∉ texts.base
  quote : ' ' ∉ texts.quote
  amount : ' ' ∉ texts.amount
  ppc : ' ' ∉ texts.ppc
  depositTxid : ' ' ∉ texts.depositTxid
  address : ' ' ∉ texts.address
  pubKey1 : ' ' ∉ texts.pubKey1
  pubKey2 : ' ' ∉ texts.pubKey2
  serverPubKey : ' ' ∉ texts.serverPubKey
  sig1 : ' ' ∉ texts.sig1
  sig2 : ' ' ∉ texts.sig2
  nonce : ' ' ∉ texts.nonce

/-- The words from the name of the message to the routes. -/
def front (texts : OrderTexts) : List Text :=
  [texts.action, texts.base ++ '/' :: texts.quote, texts.amount, texts.ppc]

/-- The words behind the routes. -/
def back (texts : OrderTexts) (rest : Text) : List Text :=
  [texts.depositTxid, texts.address, texts.pubKey1, texts.pubKey2,
    texts.serverPubKey, texts.sig1, texts.sig2, texts.nonce ++ rest]

theorem splitOn_text
    {texts : OrderTexts}
    (plain : texts.Plain)
    {rest : Text}
    (rest_plain : ' ' ∉ rest) :
    (texts.text rest).splitOn ' ' =
      openOrderName :: (texts.front ++
        (texts.routes.splitOn ' ' ++ texts.back rest)) := by
  have nested : texts.text rest = openOrderName ++ ' ' :: (texts.action ++
      ' ' :: ((texts.base ++ '/' :: texts.quote) ++ ' ' :: (texts.amount ++
      ' ' :: (texts.ppc ++ ' ' :: (texts.routes ++ ' ' :: (texts.depositTxid ++
      ' ' :: (texts.address ++ ' ' :: (texts.pubKey1 ++
      ' ' :: (texts.pubKey2 ++ ' ' :: (texts.serverPubKey ++
      ' ' :: (texts.sig1 ++ ' ' :: (texts.sig2 ++
      ' ' :: (texts.nonce ++ rest))))))))))))) := by
    simp [text, Pattern.fieldsText, toList, RoutePattern.openOrderParts]
  have pair_plain : ' ' ∉ texts.base ++ '/' :: texts.quote := by
    simp [plain.base, plain.quote]
  have nonce_plain : ' ' ∉ texts.nonce ++ rest := by
    simp [plain.nonce, rest_plain]
  have name_plain : ' ' ∉ openOrderName := by
    decide
  rw [nested, List.splitOn_append_cons_self_of_not_mem name_plain,
    List.splitOn_append_cons_self_of_not_mem plain.action,
    List.splitOn_append_cons_self_of_not_mem pair_plain,
    List.splitOn_append_cons_self_of_not_mem plain.amount,
    List.splitOn_append_cons_self_of_not_mem plain.ppc,
    List.splitOn_append_cons_self,
    List.splitOn_append_cons_self_of_not_mem plain.depositTxid,
    List.splitOn_append_cons_self_of_not_mem plain.address,
    List.splitOn_append_cons_self_of_not_mem plain.pubKey1,
    List.splitOn_append_cons_self_of_not_mem plain.pubKey2,
    List.splitOn_append_cons_self_of_not_mem plain.serverPubKey,
    List.splitOn_append_cons_self_of_not_mem plain.sig1,
    List.splitOn_append_cons_self_of_not_mem plain.sig2,
    List.splitOn_eq_singleton nonce_plain]
  rfl

theorem Valid.plain
    {texts : OrderTexts}
    (valid : texts.Valid) :
    texts.Plain := by
  have key {word : Text}
      (accepted : (RoutePattern.solid 1 (some 256)).Accepts word) :
      ' ' ∉ word :=
    RoutePattern.notMem_of_accepts (by simp) accepted rfl
  have number {word : Text} (accepted : RoutePattern.amount.Accepts word) :
      ' ' ∉ word := by
    intro member
    rcases RoutePattern.chars_of_amount accepted ' ' member with digit | point
    · cases digit
    · cases point
  exact {
    action := by
      rcases RoutePattern.accepts_action_iff.mp valid.action with buys | sells
      · rw [buys]
        decide
      · rw [sells]
        decide
    base := RoutePattern.notMem_of_accepts (by simp) valid.base rfl
    quote := RoutePattern.notMem_of_accepts (by simp) valid.quote rfl
    amount := number valid.amount
    ppc := number valid.ppc
    depositTxid :=
      RoutePattern.notMem_of_accepts (by simp) valid.depositTxid rfl
    address := RoutePattern.notMem_of_accepts (by simp) valid.address rfl
    pubKey1 := key valid.pubKey1
    pubKey2 := key valid.pubKey2
    serverPubKey := key valid.serverPubKey
    sig1 := key valid.sig1
    sig2 := key valid.sig2
    nonce := RoutePattern.notMem_of_accepts (by simp) valid.nonce rfl }

/-- The texts `new_open_order` writes, when none of those it is given has a
space. -/
structure Written (texts : OrderTexts) (formatted : List Route) : Prop
    extends texts.Plain where
  acts : RoutePattern.action.Accepts texts.action
  amount_chars : ∀ char ∈ texts.amount, char.isDigit = true ∨ char = '.'
  ppc_chars : ∀ char ∈ texts.ppc, char.isDigit = true ∨ char = '.'
  formats : formatted.flatMap Route.text = ' ' :: texts.routes
  routes_plain : ∀ route ∈ formatted, route.Plain
  nonce_digits : DigitText.Digits texts.nonce

namespace Written

variable {texts : OrderTexts} {formatted : List Route}
  (written : texts.Written formatted)
include written

/-- After the name of the message no other order starts. -/
theorem isChain_front :
    List.IsChain Calm (texts.front ++
      (texts.routes.splitOn ' ' ++ [texts.depositTxid])) := by
  have number {word : Text}
      (chars : ∀ char ∈ word, char.isDigit = true ∨ char = '.')
      {other : Char}
      (refused : other.isDigit = false ∧ other ≠ '.') :
      other ∉ word := by
    intro member
    rcases chars other member with digit | point
    · rw [refused.1] at digit
      cases digit
    · exact refused.2 point
  have action_calm (next : Text) : Calm texts.action next := by
    intro ended
    rcases RoutePattern.accepts_action_iff.mp written.acts with acts | acts <;>
      rw [acts] at ended <;> exact absurd ended (by decide)
  have amount_next (word : Text) : Calm word texts.amount :=
    calm_of_next (number written.amount_chars (by decide))
      (number written.amount_chars (by decide))
  have amount_calm (next : Text) : Calm texts.amount next :=
    calm_of_word (number written.amount_chars (by decide))
  have ppc_calm (next : Text) : Calm texts.ppc next :=
    calm_of_word (number written.ppc_chars (by decide))
  rw [Route.splitOn_routes written.routes_plain written.formats]
  exact .cons_cons (action_calm _) (.cons_cons (amount_next _)
    (.cons_cons (amount_calm _) (Route.isChain_formatted written.routes_plain
      ppc_calm texts.depositTxid)))

/-- The words of valid texts are those of the line only when the texts are. -/
theorem eq_of_words
    {others : OrderTexts}
    {rest : Text}
    (valid : others.Valid)
    (rest_eq : rest = [] ∨ rest = ['\n'])
    (words : texts.front ++ (texts.routes.splitOn ' ' ++ texts.back []) =
      others.front ++ (others.routes.splitOn ' ' ++ others.back rest)) :
    others = texts ∧ rest = [] := by
  obtain ⟨front_eq, later_eq⟩ := List.append_inj words rfl
  obtain ⟨routes_eq, back_eq⟩ := List.append_inj' later_eq rfl
  simp only [front, List.cons.injEq, and_true] at front_eq
  simp only [back, List.append_nil, List.cons.injEq, and_true] at back_eq
  obtain ⟨action_eq, pair_eq, amount_eq, ppc_eq⟩ := front_eq
  obtain ⟨txid_eq, address_eq, pubKey1_eq, pubKey2_eq, serverPubKey_eq,
    sig1_eq, sig2_eq, nonce_eq⟩ := back_eq
  have rest_nil : rest = [] := by
    rcases rest_eq with rfl | rfl
    · rfl
    · have digits := written.nonce_digits
      rw [nonce_eq] at digits
      have feed := digits '\n' (by simp)
      cases feed
  subst rest_nil
  rw [List.append_nil] at nonce_eq
  have joined : [' '].intercalate (texts.routes.splitOn ' ') = texts.routes :=
    List.intercalate_splitOn ' '
  have same_routes : texts.routes = others.routes := by
    rw [← joined, routes_eq, List.intercalate_splitOn]
  have base_slash : '/' ∉ others.base :=
    RoutePattern.notMem_of_accepts (by simp) valid.base rfl
  have quote_slash : '/' ∉ others.quote :=
    RoutePattern.notMem_of_accepts (by simp) valid.quote rfl
  obtain ⟨base_eq, -, quote_eq⟩ :=
    (List.append_cons_inj_of_notMem base_slash quote_slash).mp pair_eq.symm
  refine ⟨?_, rfl⟩
  cases texts
  cases others
  simp_all

/-- No valid texts start later in the line. -/
theorem not_later
    {others : OrderTexts}
    {rest start : Text}
    {more : List Text}
    (valid : others.Valid)
    (words : texts.front ++ (texts.routes.splitOn ' ' ++ texts.back []) =
      more ++ (start ++ openOrderName) ::
        (others.front ++ (others.routes.splitOn ' ' ++ others.back rest))) :
    False := by
  -- The eight words behind the routes leave no room for an order.
  have some_word := List.length_pos_iff_ne_nil.mpr
    (List.splitOn_ne_nil ' ' others.routes)
  have lengths := congrArg List.length words
  simp only [List.length_append, List.length_cons, front, back,
    List.length_nil] at lengths
  have whole : (texts.front ++ (texts.routes.splitOn ' ' ++
      [texts.depositTxid])) ++ (texts.back []).tail =
      (more ++ [start ++ openOrderName, others.action]) ++
        (others.front.tail ++
          (others.routes.splitOn ' ' ++ others.back rest)) := by
    have split : texts.back [] =
        [texts.depositTxid] ++ (texts.back []).tail := rfl
    rw [List.append_assoc, List.append_assoc, ← split, words]
    simp [front]
  have inside : more ++ [start ++ openOrderName, others.action] <+:
      texts.front ++ (texts.routes.splitOn ' ' ++ [texts.depositTxid]) := by
    apply List.prefix_of_prefix_length_le (List.prefix_append _ _)
    · rw [← whole]
      exact List.prefix_append _ _
    · simp only [List.length_append, List.length_cons, front,
        List.length_nil]
      omega
  obtain ⟨others_later, split⟩ := inside
  have chain := written.isChain_front
  rw [← split, List.append_assoc] at chain
  have calm := (List.isChain_append_cons_cons.mp chain).2.1
  exact calm (List.suffix_append _ _) valid.action

/-- The expression matches the line only from the name of the message on. -/
theorem eq_of_place
    (version ntp : Nat)
    {others : OrderTexts}
    {rest : Text}
    (valid : others.Valid)
    (ended : endOfText rest = true)
    (place : others.text rest <:+ texts.line version ntp) :
    others = texts ∧ rest = [] := by
  have rest_eq : rest = [] ∨ rest = ['\n'] := by
    simpa [endOfText] using ended
  have rest_plain : ' ' ∉ rest := by
    rcases rest_eq with rfl | rfl <;> decide
  obtain ⟨before, start, word, later, here_words, line_words⟩ :=
    @Words.exists_words_of_suffix Char (· == ' ') _ _ place
  rw [← List.splitOn_eq_splitOnP] at here_words line_words
  rw [splitOn_text valid.plain rest_plain, List.cons.injEq] at here_words
  obtain ⟨rfl, rfl⟩ := here_words
  rw [line, List.splitOn_append_cons_self_of_not_mem
      (Route.space_notMem_digits version),
    List.splitOn_append_cons_self_of_not_mem (Route.space_notMem_digits ntp),
    splitOn_text written.toPlain List.not_mem_nil] at line_words
  have name_notMem (number : Nat) (start : Text) :
      Nat.toDigits 10 number ≠ start ++ openOrderName := by
    intro same
    have digits := DigitText.digits_toDigits number
    rw [same] at digits
    have letter := digits 'o' (List.mem_append_right _ (by decide))
    cases letter
  rcases before with _ | ⟨_, _ | ⟨_, _ | ⟨_, more⟩⟩⟩
  · obtain ⟨first, -⟩ := List.cons.inj line_words
    exact absurd first (name_notMem version start)
  · obtain ⟨-, line_words⟩ := List.cons.inj line_words
    obtain ⟨second, -⟩ := List.cons.inj line_words
    exact absurd second (name_notMem ntp start)
  · obtain ⟨-, line_words⟩ := List.cons.inj line_words
    obtain ⟨-, line_words⟩ := List.cons.inj line_words
    obtain ⟨-, line_words⟩ := List.cons.inj line_words
    exact written.eq_of_words valid rest_eq line_words
  · obtain ⟨-, line_words⟩ := List.cons.inj line_words
    obtain ⟨-, line_words⟩ := List.cons.inj line_words
    obtain ⟨-, line_words⟩ := List.cons.inj line_words
    exact absurd line_words fun words => written.not_later valid words

/-- A line of valid texts is taken apart into them. -/
theorem search_of_valid
    (version ntp : Nat)
    (valid : texts.Valid) :
    (RoutePattern.openOrder.search (texts.line version ntp)).map
        Match.groups =
      some (openOrderName :: texts.toList) := by
  have place : texts.text [] <:+ texts.line version ntp :=
    ⟨Nat.toDigits 10 version ++ ' ' :: (Nat.toDigits 10 ntp ++ [' ']),
      by simp [line]⟩
  refine Pattern.search_groups_eq place
    (reads_openOrder_iff.mpr ⟨texts, [], valid, rfl, rfl, rfl⟩) ?_
  intro there groups there_place reads
  obtain ⟨others, rest, others_valid, ended, rfl, rfl⟩ :=
    reads_openOrder_iff.mp reads
  obtain ⟨rfl, -⟩ := written.eq_of_place version ntp others_valid ended
    there_place
  rfl

/-- In any other line nothing is found. -/
theorem search_of_not_valid
    (version ntp : Nat)
    (invalid : ¬texts.Valid) :
    RoutePattern.openOrder.search (texts.line version ntp) = none := by
  apply Pattern.search_eq_none
  intro here groups place reads
  obtain ⟨others, rest, others_valid, ended, rfl, rfl⟩ :=
    reads_openOrder_iff.mp reads
  obtain ⟨rfl, -⟩ := written.eq_of_place version ntp others_valid ended place
  exact invalid others_valid

end Written

end OrderTexts

end Coinbend
