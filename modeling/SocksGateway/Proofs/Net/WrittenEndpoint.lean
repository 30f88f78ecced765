import SocksGateway.Net.EndpointText
import SocksGateway.Proofs.Net.WrittenAddress

namespace SocksGateway.Endpoint
open Address Numeral

theorem readPort_write (port : UInt16) :
    readPort (':' :: Numeral.write 10 port.toNat) = some (port, []) := by
  have hread :=
    read_written (r := { limit := 65536 }) (by decide) (by decide)
    port.toNat_lt nofun (stops_nil 10)
  rw [List.append_nil] at hread
  simp [readPort, hread]

theorem readScope_write (scope : UInt32) (cs : List Char) :
    readScope (scopeChars scope ++ ']' :: cs) = (scope, ']' :: cs) := by
  by_cases h : scope = 0
  · subst h
    rfl
  · have hend : Stops 10 (']' :: cs) := stops_cons (by decide)
    have hread :=
      read_written (r := { limit := 4294967296 }) (by decide) (by decide) scope.toNat_lt nofun hend
    rw [scopeChars, if_neg h, readScope, List.cons_append, Reader.skip_cons_self,
      Option.bind_some, hread]
    show (UInt32.ofNat scope.toNat, ']' :: cs) = (scope, ']' :: cs)
    rw [UInt32.ofNat_toNat]

theorem ends_scopeChars (scope : UInt32) (cs : List Char) :
    Ends (scopeChars scope ++ ']' :: cs) ∧
      (scopeChars scope ++ ']' :: cs).head? ≠ some ':' := by
  by_cases h : scope = 0
  · rw [scopeChars, if_pos h]
    exact ⟨ends_cons (by decide) (by decide) _, by simp⟩
  · rw [scopeChars, if_neg h]
    exact ⟨ends_cons (by decide) (by decide) _, by simp⟩

theorem ofChars?_chars (e : Endpoint) : ofChars? e.chars = some e := by
  obtain ⟨host, port⟩ := e
  have hport := readPort_write port
  cases host with
  | v4 a =>
    have hcolon : Stops 10 (':' :: Numeral.write 10 port.toNat) := stops_cons (by decide)
    have hread := readV4_write strict a hcolon
    simp [ofChars?, Reader.whole, Reader.orElse, chars, hostChars, Endpoint.readV4, hread, hport]
  | v6 a scope =>
    have hv4 (cs : List Char) : Address.readV4 strict ('[' :: cs) = none :=
      readV4_of_stops strict (stops_cons (by decide))
    obtain ⟨hends, hcolon⟩ := ends_scopeChars scope (':' :: Numeral.write 10 port.toNat)
    have hread := readV6_write strict (by decide) a hends hcolon
    have hscope := readScope_write scope (':' :: Numeral.write 10 port.toNat)
    simp [ofChars?, Reader.whole, Reader.orElse, chars, hostChars, Endpoint.readV4,
      Endpoint.readV6, hv4, hread, hscope, hport]

theorem visible_chars (e : Endpoint) : Blank.Visible e.chars := by
  have hnumeral (n : Nat) : Blank.Visible (Numeral.write 10 n) := .write (by decide) (by decide) n
  refine .append ?_ (.cons (by decide) (hnumeral _))
  cases e.host with
  | v4 a => exact visible_v4Chars a
  | v6 a scope =>
    have hscope : Blank.Visible (scopeChars scope) := by
      unfold scopeChars
      split
      · exact .nil
      · exact .cons (by decide) (hnumeral _)
    have hopen : Blank.Visible ('[' :: v6Chars a) := .cons (by decide) (visible_v6Chars a)
    exact (hopen.append hscope).append (.cons (by decide) .nil)

theorem ofProxyText?_toText {e : Endpoint} (h : e.port ≠ 0) : ofProxyText? e.toText = some e := by
  rw [ofProxyText?, toText, String.toList_ofList, e.visible_chars.trim_eq, ofChars?_chars]
  exact Option.filter_eq_some_iff.2 ⟨rfl, by simpa using h⟩

/-- Whatever text an endpoint was read from, it has a port and is read again from its own text; and
each endpoint with a port is read from its text. -/
theorem proxy_text_inverse :
    (∀ text e, ofProxyText? text = some e → e.port ≠ 0 ∧ ofProxyText? e.toText = some e) ∧
    ∀ e : Endpoint, e.port ≠ 0 → ofProxyText? e.toText = some e := by
  refine ⟨fun text e h => ?_, fun e => ofProxyText?_toText⟩
  have hport := port_ne_zero_of_ofProxyText? h
  exact ⟨hport, ofProxyText?_toText hport⟩

theorem proxy_text_inverse_of_spellings :
    let mapped : Endpoint := ⟨.v6 (Address.mapped 0x01020304#32) 7, 80⟩
    let last : Endpoint := ⟨.v6 0x20010db8000000000000000000000001#128 0, 65535⟩
    ofProxyText? " [0:0:0::FFFF:0102:304%007]:00080\t" = some mapped ∧
      mapped.toText = "[::ffff:1.2.3.4%7]:80" ∧
      mapped.port ≠ 0 ∧ ofProxyText? mapped.toText = some mapped ∧
      last.toText = "[2001:db8::1]:65535" ∧ ofProxyText? last.toText = some last := by
  intro mapped last
  have hread : ofProxyText? " [0:0:0::FFFF:0102:304%007]:00080\t" = some mapped := by decide +kernel
  obtain ⟨hport, hagain⟩ := proxy_text_inverse.1 _ mapped hread
  exact ⟨hread, by decide +kernel, hport, hagain, by decide +kernel,
    proxy_text_inverse.2 last (by decide)⟩

end SocksGateway.Endpoint
