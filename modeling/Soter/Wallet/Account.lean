import Mathlib.Data.String.Basic
import Mathlib.Data.List.Basic

/-!
# Wallet Accounts

What the mobile app reads out of a WalletConnect session.

A session the `SignClient` hands over lists its Stellar accounts as CAIP-10
ids, `namespace:reference:address` (`stellar:mainnet:G...`). Four places in
`walletConnect.ts` turn such a session into the service's `WalletSession` with
the same three lines: the accounts default to `[]` when the session has no
Stellar namespace, and the public key is
`accounts[0]?.split(':')[2] || undefined`. `SignSession.toWalletSession` is
those lines, once.

The parse is JavaScript's `split` on a one-character separator, which is
Lean's `String.split` on that character: every piece between separators,
empty pieces included. `String.split_of_valid` turns it into
`List.splitOnP`, where Mathlib's `splitOn_intercalate` reads a joined list
back. So `publicKeyOf_intercalate` can say exactly what the key is for every
account: the third colon-separated piece of the first account, unless that
piece is empty. An account is always the join of its pieces, so this covers
every input; a well-formed CAIP-10 id gives back its address, a shorter one
gives no key, and an address with a colon in it is cut at the colon.

`formatPublicKey` is the home screen's short form of the key. It uses
JavaScript's `length` and `slice`, which count UTF-16 code units, not
characters: a character outside the Basic Multilingual Plane (an emoji, say)
takes two units, and a slice may cut it in half. So the short form is taken
of the key as JavaScript holds it, `utf16 key`. (The parse above is not
affected: it splits at `:`, which is one unit, and the pieces are the same
either way.)

## Main definitions

* `SignSession`: The part of a `SignClient` session the service reads.
* `WalletSession`: The session the service stores and reports.
* `publicKeyOf`: The public key of a list of accounts.
* `SignSession.toWalletSession`: A library session as the service stores it.
* `utf16`: A string as JavaScript holds it, in UTF-16 code units.
* `formatPublicKey`: The key as the home screen shows it.

## Theorems

* `publicKeyOf_intercalate`: The key is the third piece of the first account.
* `publicKeyOf_colon_free`: A key is non-empty and holds no colon.
* `formatPublicKey_display`: The short form has at most fifteen code units,
  keeps a long key's first and last six, and formatting it again changes
  nothing.
-/

namespace Soter

namespace Wallet

/-- A session as the `SignClient` reports it, as far as the service reads it:
    its topic, and `namespaces.stellar.accounts`, absent when the session has
    no Stellar namespace. -/
structure SignSession where
  topic : String
  stellarAccounts : Option (List String)
  deriving DecidableEq, Repr

/-- `WalletSession` of `walletConnect.ts`. -/
structure WalletSession where
  topic : String
  accounts : List String
  publicKey : Option String
  deriving DecidableEq, Repr

/-- `accounts[0]?.split(':')[2] || undefined`: the third colon-separated piece
    of the first account; an empty piece is falsy and gives no key. -/
def publicKeyOf (accounts : List String) : Option String :=
  (accounts.head?.bind fun account => (account.split (· == ':'))[2]?).filter (· != "")

/-- The `WalletSession` stored for a library session, as the `session_update`
    and `session_connect` handlers, the approval handler of
    `createConnection` and `restoreSessions` each build it. -/
def SignSession.toWalletSession (session : SignSession) : WalletSession :=
  let accounts := session.stellarAccounts.getD []
  { topic := session.topic, accounts, publicKey := publicKeyOf accounts }

/-! ### The key of an account -/

theorem splitOnP_intercalate (ss : List String) (h : ∀ s ∈ ss, ':' ∉ s.data) :
    List.splitOnP (· == ':') ([':'].intercalate (ss.map String.data)) =
      if ss = [] then [[]] else ss.map String.data := by
  rcases ss with _ | ⟨s, ss⟩
  · rfl
  · have := List.splitOn_intercalate ((s :: ss).map String.data) ':'
      (by simpa using fun t ht => h t ht) (by simp)
    simpa [List.splitOn] using this

theorem intercalate_cons {α : Type} (sep x : List α) (xs : List (List α)) :
    sep.intercalate (x :: xs) = x ++ (xs.map (sep ++ ·)).flatten := by
  induction xs generalizing x with
  | nil => simp [List.intercalate]
  | cons y xs ih =>
      have : sep.intercalate (x :: y :: xs) = x ++ sep ++ sep.intercalate (y :: xs) := by
        simp [List.intercalate, List.intersperse_cons₂]
      rw [this, ih]
      simp

theorem data_intercalate_go (sep : String) (acc : String) (ss : List String) :
    (String.intercalate.go acc sep ss).data = acc.data ++ (ss.map (sep.data ++ ·.data)).flatten := by
  induction ss generalizing acc with
  | nil => simp [String.intercalate.go]
  | cons t ss ih => simp [String.intercalate.go, ih, String.data_append]

theorem data_intercalate (sep : String) :
    ∀ ss : List String, (String.intercalate sep ss).data = sep.data.intercalate (ss.map String.data)
  | [] => rfl
  | s :: ss => by
      rw [String.intercalate, data_intercalate_go, List.map_cons, intercalate_cons, List.map_map]
      rfl

/-- The key of a list of accounts is the third colon-separated piece of the
    first account, unless that piece is empty: for an account written as the
    join of colon-free pieces, those pieces are what the parse reads back. -/
theorem publicKeyOf_intercalate (ss : List String) (h : ∀ s ∈ ss, ':' ∉ s.data)
    (rest : List String) :
    publicKeyOf (String.intercalate ":" ss :: rest) = ss[2]?.filter (· != "") := by
  have hsplit : (String.intercalate ":" ss).split (· == ':') = if ss = [] then [""] else ss := by
    rw [String.split_of_valid, data_intercalate, show (":" : String).data = [':'] from rfl,
      splitOnP_intercalate ss h]
    split
    · rfl
    · rw [List.map_map]; exact List.map_id' _
  simp only [publicKeyOf, List.head?_cons, Option.some_bind, hsplit]
  split <;> simp_all

/-- A CAIP-10 id gives back its address. -/
theorem publicKeyOf_caip10_account :
    (∀ s ∈ ["stellar", "mainnet", "GABC"], ':' ∉ s.data) ∧
    publicKeyOf (String.intercalate ":" ["stellar", "mainnet", "GABC"] :: []) = some "GABC" :=
  ⟨by decide, publicKeyOf_intercalate ["stellar", "mainnet", "GABC"] (by decide) []⟩

theorem mem_splitOnP_colon_free {p : Char → Bool} :
    ∀ {xs w : List Char}, w ∈ xs.splitOnP p → ∀ c ∈ w, p c = false
  | [], w, hw => by simp_all
  | x :: xs, w, hw => by
      rw [List.splitOnP_cons] at hw
      split at hw
      · rcases List.mem_cons.mp hw with rfl | hw
        · simp
        · exact mem_splitOnP_colon_free hw
      · -- The first piece gains `x`; the others are pieces of `xs`.
        obtain ⟨r, rs, hr⟩ := List.exists_cons_of_ne_nil (List.splitOnP_ne_nil p xs)
        rw [hr, List.modifyHead_cons] at hw
        rcases List.mem_cons.mp hw with rfl | hw
        · intro c hc
          rcases List.mem_cons.mp hc with rfl | hc
          · simpa using ‹¬p c = true›
          · exact mem_splitOnP_colon_free (hr ▸ List.mem_cons_self r rs) c hc
        · exact mem_splitOnP_colon_free (hr ▸ List.mem_cons_of_mem r hw)

/-- Every key the service shows is a non-empty piece of an account with no
    colon in it. -/
theorem publicKeyOf_colon_free {accounts : List String} {key : String}
    (h : publicKeyOf accounts = some key) : key ≠ "" ∧ ':' ∉ key.data := by
  simp only [publicKeyOf, Option.filter_eq_some, Option.mem_def, Option.bind_eq_some,
    bne_iff_ne] at h
  obtain ⟨⟨account, -, hkey⟩, hne⟩ := h
  refine ⟨hne, fun hc => ?_⟩
  rw [String.split_of_valid] at hkey
  obtain ⟨w, hw, rfl⟩ := List.mem_map.mp (List.mem_iff_getElem?.mpr ⟨2, hkey⟩)
  simpa using mem_splitOnP_colon_free hw ':' hc

/-! ### The short form of a key -/

/-- The UTF-16 code units of a character: the character itself below
    `0x10000`, otherwise a high and a low surrogate. -/
def charUtf16 (c : Char) : List Nat :=
  if c.toNat < 65536 then [c.toNat]
  else [55296 + (c.toNat - 65536) / 1024, 56320 + (c.toNat - 65536) % 1024]

/-- A string as JavaScript holds it: its UTF-16 code units, which `length`
    counts and `slice` cuts between. -/
def utf16 (s : String) : List Nat := s.data.flatMap charUtf16

/-- `formatPublicKey` of `HomeScreen.tsx`, on the key as JavaScript holds it:
    nothing for a missing or empty key, a key of at most twelve code units as
    it is, and otherwise `key.slice(0, 6)`, an ellipsis and `key.slice(-6)`. -/
def formatPublicKey (key : Option (List Nat)) : List Nat :=
  match key with
  | some key =>
      if key = [] then []
      else if key.length ≤ 12 then key
      else key.take 6 ++ utf16 "..." ++ key.drop (key.length - 6)
  | none => []

theorem formatPublicKey_long {key : List Nat} (h : 12 < key.length) :
    formatPublicKey (some key) = key.take 6 ++ utf16 "..." ++ key.drop (key.length - 6) := by
  have hne : key ≠ [] := List.ne_nil_of_length_pos (by omega)
  simp only [formatPublicKey, if_neg hne, if_neg (Nat.not_le.mpr h)]

theorem formatPublicKey_of_short {key : List Nat} (h : key.length ≤ 12) :
    formatPublicKey (some key) = key := by
  by_cases hne : key = [] <;> simp [formatPublicKey, hne, h]

/-- The short form of a key longer than twelve code units has fifteen, and its
    first and last six are the key's. -/
theorem short_form_ends (l : List Nat) (h : 12 < l.length) :
    let f := l.take 6 ++ utf16 "..." ++ l.drop (l.length - 6)
    f.length = 15 ∧ f.take 6 = l.take 6 ∧ f.drop (f.length - 6) = l.drop (l.length - 6) := by
  have h6 : (l.take 6).length = 6 := by simp; omega
  have h3 : (utf16 "...").length = 3 := rfl
  have hlen : (l.take 6 ++ utf16 "..." ++ l.drop (l.length - 6)).length = 15 := by
    simp only [List.length_append, h6, h3, List.length_drop]
    omega
  refine ⟨hlen, by rw [List.append_assoc]; exact List.take_left' h6, ?_⟩
  rw [hlen]
  exact List.drop_left' (by simp [h6, h3])

/-- The short form of a key has at most fifteen code units; of a key longer
    than twelve it keeps the first six and the last six; and formatting a
    short form again gives it back. -/
theorem formatPublicKey_display (key : Option (List Nat)) :
    (formatPublicKey key).length ≤ 15 ∧
    (∀ k, key = some k → 12 < k.length →
      formatPublicKey key = k.take 6 ++ utf16 "..." ++ k.drop (k.length - 6)) ∧
    formatPublicKey (some (formatPublicKey key)) = formatPublicKey key := by
  rcases key with _ | k
  · exact ⟨by decide, by simp, by decide⟩
  by_cases hk : 12 < k.length
  · -- A long key: six code units, the ellipsis, six code units.
    obtain ⟨hlen, htake, hdrop⟩ := short_form_ends k hk
    have hf := formatPublicKey_long hk
    refine ⟨by rw [hf, hlen], fun k' hk' _ => by cases hk'; exact hf, ?_⟩
    rw [formatPublicKey_long (by rw [hf, hlen]; omega), hf, htake, hdrop]
  · have hs := formatPublicKey_of_short (Nat.not_lt.mp hk)
    refine ⟨by rw [hs]; omega, fun k' hk' h => absurd (by cases hk'; exact h) hk, ?_⟩
    rw [hs, hs]

/-- Seven emoji are fourteen code units, so the screen cuts them to three, an
    ellipsis and three. -/
example : formatPublicKey (some (utf16 "😀😀😀😀😀😀😀")) = utf16 "😀😀😀...😀😀😀" := by decide

end Wallet

end Soter
