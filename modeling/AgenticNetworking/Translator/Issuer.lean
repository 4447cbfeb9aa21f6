import Mathlib.Data.String.Basic

/-!
# The JWT issuer (`GetK8sIssuer`)

`constructTranslator` asks the API server for the issuer of its service-account tokens, which
the translator then trusts for JWTs.  `GetK8sIssuer` builds an HTTP client from the kubeconfig,
fetches the OIDC discovery document at `<host>/.well-known/openid-configuration`, and reads its
`issuer` field.  Making the transport, the `GET` and the JSON decoding are the parameters
`transportFor`, `get` and `decode` (a missing `issuer` field decodes to the empty string, as
`encoding/json` leaves it).  Every failure is returned as an error, an empty `issuer` included,
so `constructTranslator` never builds a translator with an empty issuer.
-/

namespace AgenticNetworking

namespace Translator

/-- What `client.Get` returns on success: the response's status code and body. -/
structure Response where
  statusCode : ℕ
  body : String

/-- `http.StatusOK`. -/
def StatusOK : ℕ := 200

section Issuer

variable {τ : Type} (transportFor : Except String τ)
  (get : τ → String → Except String Response) (decode : String → Except String String)

/-- `GetK8sIssuer`, for a kubeconfig whose API server is `host`. -/
def GetK8sIssuer (host : String) : Except String String :=
  match transportFor with
  | .error err => .error ("failed to create transport from kubeconfig: " ++ err)
  | .ok transport =>
    let wellKnownURL := host ++ "/.well-known/openid-configuration"
    match get transport wellKnownURL with
    | .error err =>
      .error ("failed to get OIDC discovery endpoint " ++ wellKnownURL ++ ": " ++ err)
    | .ok resp =>
      if resp.statusCode ≠ StatusOK then
        .error ("OIDC discovery endpoint " ++ wellKnownURL ++ " returned status " ++
          toString resp.statusCode)
      else
        match decode resp.body with
        | .error err => .error ("failed to decode OIDC discovery response: " ++ err)
        | .ok issuer =>
          if issuer = "" then
            .error ("issuer field not found in OIDC discovery response from " ++ wellKnownURL)
          else .ok issuer

end Issuer

end Translator

end AgenticNetworking
