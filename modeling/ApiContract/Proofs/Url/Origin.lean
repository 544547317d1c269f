import ApiContract.Proofs.Results
import ApiContract.Proofs.Text.Cut
import ApiContract.Url.Basic

/-!
The origin of a URL holds no question mark, whatever the URL was read from: no host may hold one.
-/

namespace ApiContract.Url

theorem mem_toDigitsCore {base fuel n : Nat} {digits : List Char} {c : Char}
    (member : c ∈ Nat.toDigitsCore base fuel n digits) :
    c ∈ digits ∨ ∃ digit, c = Nat.digitChar digit := by
  induction fuel generalizing n digits with
  | zero => exact .inl member
  | succ fuel ih =>
      rw [Nat.toDigitsCore] at member
      split at member
      next =>
        rcases List.mem_cons.mp member with same | old
        · exact .inr ⟨_, same⟩
        · exact .inl old
      next =>
        rcases ih member with inside | digit
        · rcases List.mem_cons.mp inside with same | old
          · exact .inr ⟨_, same⟩
          · exact .inl old
        · exact .inr digit

theorem digitChar_ne (digit : Nat) : Nat.digitChar digit ≠ '?' := by
  grind [Nat.digitChar]

theorem toDigits_free (base n : Nat) : '?' ∉ Nat.toDigits base n := by
  intro member
  rcases mem_toDigitsCore member with old | ⟨digit, same⟩
  · cases old
  · exact digitChar_ne digit same.symm

theorem toString_free (n : Nat) : '?' ∉ (toString n).toList := by
  rw [Nat.toString_eq_ofList_toDigits, String.toList_ofList]
  exact toDigits_free 10 n

theorem hexText_free (n : Nat) : '?' ∉ (hexText n).toList := by
  rw [hexText, String.toList_ofList]
  exact toDigits_free 16 n

theorem intercalate_free {mark : String} (markFree : '?' ∉ mark.toList) {parts : List String}
    (free : ∀ part ∈ parts, '?' ∉ part.toList) :
    '?' ∉ (String.intercalate mark parts).toList := by
  intro member
  rcases Text.mem_of_mem_intercalate member with inMark | ⟨part, inside, found⟩
  · exact markFree inMark
  · exact free part inside found

theorem ipv4Text_free (address : Nat) : '?' ∉ (ipv4Text address).toList := by
  apply intercalate_free (by decide)
  intro part member
  obtain ⟨n, -, same⟩ := List.mem_map.mp member
  exact same ▸ toString_free n

theorem joinPieces_free (pieces : List Nat) : '?' ∉ (joinPieces pieces).toList := by
  apply intercalate_free (by decide)
  intro part member
  obtain ⟨n, -, same⟩ := List.mem_map.mp member
  exact same ▸ hexText_free n

theorem ipv6Text_free (pieces : List Nat) : '?' ∉ (ipv6Text pieces).toList := by
  rw [ipv6Text]
  split
  next =>
    rw [String.toList_append, String.toList_append, List.mem_append, List.mem_append]
    rintro ((before | mark) | after)
    · exact joinPieces_free _ before
    · exact absurd mark (by decide)
    · exact joinPieces_free _ after
  next => exact joinPieces_free pieces

theorem asciiDomain_free {domain ascii : List Char} (made : asciiDomain? domain = some ascii) :
    '?' ∉ ascii := by
  intro member
  rw [asciiDomain?] at made
  split at made
  next => cases made
  next labels _ =>
    dsimp only at made
    split at made
    next => cases made
    next allowed =>
      cases made
      apply allowed
      have forbidden := List.any_eq_true.mpr ⟨'?', member, (by decide : isForbidden '?' = true)⟩
      rw [forbidden]
      rfl

theorem readHost_free {text : List Char} {host : Host} (read : readHost text = .ok host) :
    '?' ∉ host.text.toList := by
  rw [readHost.eq_def] at read
  split at read
  next =>
    split at read
    next =>
      split at read
      next pieces _ =>
        cases read
        rw [Host.text, String.toList_append, String.toList_append, List.mem_append, List.mem_append]
        rintro ((opening | inside) | closing)
        · exact absurd opening (by decide)
        · exact ipv6Text_free _ inside
        · exact absurd closing (by decide)
      next => cases read
    next => cases read
  next =>
    dsimp only at read
    split at read
    next => cases read
    next domain made =>
      split at read
      next => cases read
      next =>
        split at read
        next =>
          split at read
          next => cases read; exact ipv4Text_free _
          next => cases read
        next =>
          cases read
          obtain ⟨decoded, -, ascii⟩ := Option.bind_eq_some_iff.mp made
          rw [Host.text, String.toList_ofList]
          exact asciiDomain_free ascii

theorem readOpaqueHost_free {text : List Char} {host : Host}
    (read : readOpaqueHost text = .ok host) : '?' ∉ host.text.toList := by
  rw [readOpaqueHost.eq_def] at read
  split at read
  next => exact readHost_free read
  next =>
    dsimp only at read
    split at read
    next => cases read
    next allowed =>
      cases read
      rw [Host.text, String.toList_ofList]
      exact fun member => allowed (List.any_eq_true.mpr ⟨'?', member, by decide⟩)

/-- The host, if there is one, holds no question mark. -/
def HostFree (url : Url) : Prop := ∀ host, url.host = some host → '?' ∉ host.text.toList

theorem readAuthority_free {scheme : String} {special : Bool} {chars : List Char} {url : Url}
    (read : readAuthority scheme special chars = .ok url) : url.HostFree := by
  rw [readAuthority] at read
  dsimp only at read
  split at read
  next => cases read
  next =>
    -- The hosts of special and of other schemes are read apart.
    split at read
    all_goals
      obtain ⟨found, hostRead, rest⟩ := bind_eq_ok read
      have free : '?' ∉ found.text.toList := by
        first
        | exact readHost_free hostRead
        | exact readOpaqueHost_free hostRead
      split at rest
      next =>
        obtain ⟨port, -, same⟩ := bind_eq_ok rest
        cases same
        rintro host ⟨⟩
        exact free
      next =>
        cases rest
        rintro host ⟨⟩
        exact free

theorem readFile_free {chars : List Char} {url : Url} (read : readFile chars = .ok url) :
    url.HostFree := by
  have hostless : ∀ {rest : String}, (⟨"file", none, none, rest⟩ : Url).HostFree := by
    rintro rest host ⟨⟩
  rw [readFile.eq_def] at read
  split at read
  next =>
    split at read
    next =>
      dsimp only at read
      split at read
      all_goals
        split at read
        next => cases read; exact hostless
        next =>
          obtain ⟨found, hostRead, same⟩ := map_eq_ok read
          subst same
          rintro host ⟨⟩
          exact readHost_free hostRead
    next => cases read; exact hostless
  next => cases read; exact hostless

theorem parse_free {text : String} {url : Url} (parsed : parse text = .ok url) : url.HostFree := by
  rw [parse] at parsed
  split at parsed
  next => cases parsed
  next =>
    split at parsed
    next => exact readFile_free parsed
    next =>
      split at parsed
      next => exact readAuthority_free parsed
      next =>
        split at parsed
        next => exact readAuthority_free parsed
        next =>
          cases parsed
          rintro host ⟨⟩

theorem scheme_free {scheme : String} {port : Nat} (known : defaultPort scheme = some port) :
    '?' ∉ scheme.toList := by
  rw [defaultPort.eq_def] at known
  split at known
  all_goals first | decide | cases known

theorem originWithin_free {fuel : Nat} {url : Url} (free : url.HostFree) :
    '?' ∉ (originWithin fuel url).toList := by
  induction fuel generalizing url with
  | zero =>
      rw [originWithin]
      decide
  | succ fuel ih =>
      rw [originWithin]
      split
      next =>
        split
        next inner parsed => exact ih (parse_free parsed)
        next => decide
      next =>
        split
        next port host known present =>
          rw [String.toList_append, String.toList_append, String.toList_append, List.mem_append,
            List.mem_append, List.mem_append]
          rintro (((inScheme | inMark) | inHost) | inPort)
          · exact scheme_free known inScheme
          · exact absurd inMark (by decide)
          · exact free host present inHost
          · split at inPort
            next port _ =>
              rw [String.toList_append, List.mem_append] at inPort
              rcases inPort with mark | digits
              · exact absurd mark (by decide)
              · exact toString_free port digits
            next => cases inPort
        next => decide

theorem origin_free {text : String} {url : Url} (parsed : parse text = .ok url) :
    '?' ∉ (origin url).toList :=
  originWithin_free (parse_free parsed)

end ApiContract.Url
