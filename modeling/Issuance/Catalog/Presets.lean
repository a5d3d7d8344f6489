/-! # Presets

    The templates that come with the program, as WPML texts. -/

namespace Issuance.Preset

/-- A student card. -/
def studentCard : String :=
  r#"@key: studentCard
@name: Student Card
@context: https://www.w3.org/2018/credentials/v1

[fields]
subjectDid:did:Subject DID:required
name:text:Full Name:required
dept:text:Department
studentNo:text:Student No:required

[body]
{
  "@context": ["$context"],
  "type": ["VerifiableCredential", "StudentCard"],
  "issuer": "{{org.did}}",
  "credentialSubject": {
    "id": "{{subjectDid}}",
    "name": "{{name}}",
    "dept": "{{dept}}",
    "studentNo": "{{studentNo}}"
  }
}
"#

/-- An employer's word on a job. -/
def employmentAttestation : String :=
  r#"@key: employmentAttestation
@name: Employment Attestation
@context: https://www.w3.org/2018/credentials/v1

[fields]
subjectDid:did:Subject DID:required
name:text:Full Name:required
role:text:Role/Title:required
startDate:date:Start Date:required
status:select:Employment Status:required,values=active|contractor|terminated

[body]
{
  "@context": ["$context"],
  "type": ["VerifiableCredential","EmploymentAttestation"],
  "issuer": "{{org.did}}",
  "credentialSubject": {
    "id": "{{subjectDid}}",
    "name": "{{name}}",
    "role": "{{role}}",
    "status": "{{status}}",
    "startDate": "{{startDate}}"
  },
  "evidence": [{
    "type": "HRSystemRecord",
    "verifier": "{{org.did}}",
    "referenceId": "{{uuid}}"
  }]
}
"#

/-- A basic check of a customer. -/
def kycBasic : String :=
  r#"@key: kycBasic
@name: KYC Basic
@context: https://www.w3.org/2018/credentials/v1

[fields]
subjectDid:did:Subject DID:required
name:text:Full Name:required
nationality:text:Nationality
birthDate:date:Birth Date
idNumber:text:Gov ID / Passport
pep:select:PEP,values=no|yes

[body]
{
  "@context": ["$context"],
  "type": ["VerifiableCredential","KYCBasic"],
  "issuer":"{{org.did}}",
  "credentialSubject":{
    "id":"{{subjectDid}}",
    "name":"{{name}}",
    "nationality":"{{nationality}}",
    "birthDate":"{{birthDate}}",
    "idNumber":"{{idNumber}}",
    "pep":"{{pep}}"
  }
}
"#

/-- All presets, in the order of the catalog. -/
def all : List String := [studentCard, employmentAttestation, kycBasic]

end Issuance.Preset
