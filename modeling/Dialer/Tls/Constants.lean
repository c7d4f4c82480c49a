import Dialer.Text.Basic

/-!
# Constants of the TLS module

What the names in the TLS module stand for, as far as that does not depend on how it was built.

* `Constant` is what a name may stand for.
* `standardConstants` is the table of the numbers that have names.
-/

namespace Dialer.Tls

/-- What a name stands for. -/
inductive Constant
  | number (n : Int)
  /-- Something that is no number, told by its name. -/
  | object (name : Text)
  deriving DecidableEq

/-- No certificate is asked for. -/
def noCertificate : Int := 0

/-- A certificate is needed and checked. -/
def certificateRequired : Int := 2

/-- The option against compression, which attacks on secrets exploit. -/
def noCompression : Int := 131072

/-- The numbers that have names. -/
def standardConstants : List (String × Int) :=
  [("CERT_NONE", 0), ("CERT_OPTIONAL", 1), ("CERT_REQUIRED", 2), ("PROTOCOL_TLS", 2),
    ("PROTOCOL_TLSv1", 3), ("PROTOCOL_TLSv1_1", 4), ("PROTOCOL_TLSv1_2", 5),
    ("PROTOCOL_TLS_CLIENT", 16), ("PROTOCOL_TLS_SERVER", 17), ("PROTOCOL_SSLv23", 2),
    ("VERIFY_DEFAULT", 0), ("VERIFY_CRL_CHECK_LEAF", 4), ("VERIFY_CRL_CHECK_CHAIN", 12),
    ("VERIFY_X509_STRICT", 32), ("VERIFY_ALLOW_PROXY_CERTS", 64),
    ("VERIFY_X509_TRUSTED_FIRST", 32768), ("VERIFY_X509_PARTIAL_CHAIN", 524288),
    ("OP_NO_SSLv2", 0), ("OP_SINGLE_DH_USE", 0), ("OP_SINGLE_ECDH_USE", 0),
    ("OP_IGNORE_UNEXPECTED_EOF", 128), ("OP_NO_TICKET", 16384), ("OP_NO_COMPRESSION", 131072),
    ("OP_ENABLE_MIDDLEBOX_COMPAT", 1048576), ("OP_CIPHER_SERVER_PREFERENCE", 4194304),
    ("OP_NO_SSLv3", 33554432), ("OP_NO_TLSv1", 67108864), ("OP_NO_TLSv1_2", 134217728),
    ("OP_NO_TLSv1_1", 268435456), ("OP_NO_TLSv1_3", 536870912),
    ("OP_NO_RENEGOTIATION", 1073741824), ("OP_ALL", 2147483728), ("SSL_ERROR_SSL", 1),
    ("SSL_ERROR_WANT_READ", 2), ("SSL_ERROR_WANT_WRITE", 3), ("SSL_ERROR_WANT_X509_LOOKUP", 4),
    ("SSL_ERROR_SYSCALL", 5), ("SSL_ERROR_ZERO_RETURN", 6), ("SSL_ERROR_WANT_CONNECT", 7),
    ("SSL_ERROR_EOF", 8), ("SSL_ERROR_INVALID_ERROR_CODE", 10),
    ("ALERT_DESCRIPTION_CLOSE_NOTIFY", 0), ("ALERT_DESCRIPTION_UNEXPECTED_MESSAGE", 10),
    ("ALERT_DESCRIPTION_BAD_RECORD_MAC", 20), ("ALERT_DESCRIPTION_RECORD_OVERFLOW", 22),
    ("ALERT_DESCRIPTION_DECOMPRESSION_FAILURE", 30), ("ALERT_DESCRIPTION_HANDSHAKE_FAILURE", 40),
    ("ALERT_DESCRIPTION_BAD_CERTIFICATE", 42), ("ALERT_DESCRIPTION_UNSUPPORTED_CERTIFICATE", 43),
    ("ALERT_DESCRIPTION_CERTIFICATE_REVOKED", 44), ("ALERT_DESCRIPTION_CERTIFICATE_EXPIRED", 45),
    ("ALERT_DESCRIPTION_CERTIFICATE_UNKNOWN", 46), ("ALERT_DESCRIPTION_ILLEGAL_PARAMETER", 47),
    ("ALERT_DESCRIPTION_UNKNOWN_CA", 48), ("ALERT_DESCRIPTION_ACCESS_DENIED", 49),
    ("ALERT_DESCRIPTION_DECODE_ERROR", 50), ("ALERT_DESCRIPTION_DECRYPT_ERROR", 51),
    ("ALERT_DESCRIPTION_PROTOCOL_VERSION", 70), ("ALERT_DESCRIPTION_INSUFFICIENT_SECURITY", 71),
    ("ALERT_DESCRIPTION_INTERNAL_ERROR", 80), ("ALERT_DESCRIPTION_USER_CANCELLED", 90),
    ("ALERT_DESCRIPTION_NO_RENEGOTIATION", 100), ("ALERT_DESCRIPTION_UNSUPPORTED_EXTENSION", 110),
    ("ALERT_DESCRIPTION_CERTIFICATE_UNOBTAINABLE", 111),
    ("ALERT_DESCRIPTION_UNRECOGNIZED_NAME", 112),
    ("ALERT_DESCRIPTION_BAD_CERTIFICATE_STATUS_RESPONSE", 113),
    ("ALERT_DESCRIPTION_BAD_CERTIFICATE_HASH_VALUE", 114),
    ("ALERT_DESCRIPTION_UNKNOWN_PSK_IDENTITY", 115), ("SOCK_STREAM", 1), ("SOL_SOCKET", 1),
    ("SO_TYPE", 3)]

/-- What a name stands for among the numbers that have names. -/
def standardConstant (name : Text) : Option Constant :=
  (standardConstants.find? fun entry => entry.1.toText = name).map fun entry => .number entry.2

end Dialer.Tls
