/-!
# Names of historic scripts
-/

namespace BoundQuery.Text.CharacterName

/-- The characters from `U+14000` to `U+1CFFF`: historic scripts. -/
def historic : String := "
  a+14400+ANATOLIAN HIEROGLYPH A001y2y3y4y5y6y7y8y9x10zAy1y2y3y4y5y6y7y8y9x20y1y2y3y4y5y6zAy7y8y9x30
  y1y2y3y4y5y6y7y8y9zAx40y1zAy2y3y4y5zAy6zAzBy7y8y9x50y1y2y3y4y5y6y7y8y9x60y1y2y3y4y5y6zAzBzCy7y8y9
  x70y1y2y3y4y5y6y7y8y9x80y1y2y3y4y5y6y7y8y9x90y1y2y3y4y5y6y7zAy8zAy9w100zAy1zAy2zAy3y4zAzBzCy5zAzB
  y6y7zAzBzCy8y9x10zAzBy1y2y3y4y5zAy6y7y8y9x20y1y2y3y4y5zAy6y7y8y9x30y1y2y3y4y5zAy6y7y8y9x40y1y2y3y4
  y5y6y7y8y9x50y1y2y3y4y5y6y7y8y9x60y1y2y3y4y5y6y7y8y9x70y1y2y3y4y5y6y7y8y9x80y1y2y3y4y5y6y7y8y9x90
  y1y2y3y4y5y6y7y8y9w200y1y2zAzBy3y4y5y6y7zAy8y9zAx10y1y2y3y4y5zAy6zAy7y8y9x20y1y2y3y4y5y6y7zAy8y9
  x30y1y2y3y4y5y6y7y8y9x40y1y2y3y4y5y6y7y8y9x50y1y2y3y4y5y6y7y8y9x60y1y2y3y4y5y6y7zAy8y9x70y1y2y3y4
  y5y6y7y8y9x80y1y2y3y4y5y6y7y8y9zAx90y1y2y3y4zAy5y6y7y8y9zAw300y1y2y3y4y5y6y7y8y9zAx10y1y2y3y4y5y6
  y7y8y9x20y1y2y3y4y5y6y7y8y9zAx30y1y2AzBzCy3y4y5y6zAzBzCy7y8y9x40y1y2y3y4y5y6y7y8y9x50y1y2y3y4y5y6
  y7y8y9zAx60y1y2y3y4zAy5y6y7y8zAy9x70y1zAy2y3y4y5y6y7y8y9x80y1zAy2y3 RA OR RIzAy4y5y6zAy7y8y9x90y1
  y2y3 EIGHTy4y5y6y7y8y9w400y1y2y3y4y5y6y7y8y9x10 BEGIN LOGOGRAM MARKzA END LOGOGRAM MARKy1y2y3y4y5
  y6y7y8y9x20y1y2y3y4y5y6y7y8y9x30y1y2y3y4y5y6y7y8y9x40y1y2y3y4y5y6y7y8y9x50zAy1y2y3y4y5y6y7zAy8y9
  x60y1y2y3y4y5y6y7y8y9x70y1y2y3y4y5y6y7y8y9x80y1y2y3y4y5y6y7y8y9x90y1y2y3y4y5y6y7w501y2y3y4y5y6y7y8
  y9x10y1y2y3y4y5y6y7y8y9x20y1y2y3y4y5y6y7y8y9x30a+21ba+BAMUM LETTER PHASE-A NGKUE MFONvGBIEE FON
  vPON MFON PIPAEMGBIEEbkBAvNAA MFONvSHUENSHUETvTITA MFONvNZA MFONvSHINDA PA NJI
  vPON PA NJI PIPAEMGBIEEbmBAvMAEMBGBIEEvTU MAEMBAvNGANGUvMAEMVEUXxNSUAEwVEUAENGAMvSEUNYAMvNTOQPEN
  vKEUKEUTNDAvNKINDIvSUUvNGKUENZEUMvLAPAQwET KUTvNTAP MFAAvMAEKEUPvPASHAEvGHEUAERAEvPAMSHAE
  vMON NGGEUAETvNZUN MEUTvU YUQ NAEvGHEUAEGHEUAEvNTAP NTAAvSISAvMGBASAwEUNJOMNDEUQwOOMPUQvKAFA
  vPA LEERAEWAvNDA LEERAEWAvPETvMAEMKPENvNIKAvPUPvTUAEPvLUAEPvSONJAMvTEUTEUWENvMAENYIvKET
  vNDAANGGEUAETvKUOQvMOOMEUTvSHUMvLOMMAEvFIRIvROMvKPOQvSOQvMAP PIEETvSHIRAEvNTAPvSHOQ NSHUT YUM
  vNYIT MONGKEUAEQvPAARAEvNKAARAEvUNKNOWNvNGGENvMAESIvNJAMvMBANYIvNYETvTEUAENvSOTvPAAMvNSHIEEvMAEM
  vNYIvKAQvNSHAvVEEvLUvNENwAQvMBAQtB NSHUETvTU MAEMGBIEEvSIEEwET TUvLOM NTEUMvMBA MAELEEvKIEEM
  vYEURAEvMBAARAEvKAMvPEESHIvYAFU LEERAEWAvLAM NSHUT NYAMvNTIEE SHEUOQwDU NJAAvGHEUGHEUAEMvPIT
  vTU NSIEEvSHET NJAQyUAEQTUvMFON TEUAEQwBIT MBAAKETvNYI NTEUMvKEUPUQvGHEUGHENvKEUYEUXvLAANAEvPARUM
  vVEUMvNGKINDI MVOPxGEU MBUvWUAETvSAKEUAEvTAAMvMEUQvNGGUOQbb LARGEvMFIYAQvSUEvMBEURIwONTIEEN
  vNYAEMAEvPUNGAAMvMEUT NGGEETvFEUXvMBUOQvFEEvKEUAEMvMA NJEUAENAbaUQAvLETvNGGAAMwSENvMAvKIQvNGOM
  tC NGKUE MAEMBAwZAvYUMvWANGKUOQvNGGENwDEUAEREEwGKAQvGHARAEvMBEEKEETvGBAYIvNYIR MKPARAQ MEUN
  wTU MBITvMBEUMvPIRIEENvNDOMBUvMBAA CABBAGE-TREEvKEUSHEUAEPvGHAPvKEUKAQvYU MUOMAEvNZEUMvMBUE
  vNSEUAENvMBITvYEUQvKPARAQwAAvSEUXvNDIDAvTAASHAEvNJUEQvTITA YUEvSUAETvNGGUAEN NYAMvVEUXvNANSANAQ
  vMA KEUAERIvNTAAwGGUONvLAPvMBIRIEENwGBASAQvNTEUNGBAvTEUTEUXvNGGUMvFUEvNDEUTwSAxHAQvBUNGvVEUAEPEN
  vMBERAEvRUvNJAEMvLAMvTITUAEPvNSUOT NGOMwJEEEEvKETvNGGUvMAESIwBUAEMvLUvKUTvNJAMwGOMvWUPvNGGUEETwSOM
  wTENvKUOP NKAARAEvNSUNwDAMvMA NSIEEvYAAvNDAPvSHUEQwETFONvMBIwAEMBAwBANYIvKEUSEUXvMBEUXvKEUM
  vMBAA PICKETvYUWOQvNJEUXvMIEEwUAEvSHIQvKEN LAWzFATIGUEvNGAQwAQvLIQvPINwENvTETtD MBUOvWAPvNJIvMFON
  vNJIEEvLIEEvNJEUTwSHEEwGGAAMAEwYAMvWUAENvNGKUNvSHEEvNGKAPvKEUAETMEUNvTEUTvSHEUAEvNJAPvSUEvKET
  vYAEMMAEvKUOMvSAPvMFEUTvNDEUXvMALEERIwEUTvSEUAEQvYENvNJEUAEMvKEUOT MBUAEvNGKEURIvTUvGHAAvNGKYEE
  vFEUFEUAETvNDEEvMGBOFUMvLEUAEPvNDONvMONIwGBEUNvPUUTvMGBIEEwFOvLUMvNSIEEPvMBAAvKWAETvNYETvTEUAEN
  vSOTvYUWOQvKEUMvRAEMvTEEEEvNGKEUAEQvMFEUAEvNSIEETvKEUPvPIPwEUTAEvNYUEvLETvNGGAAMvMFIEEvNGGWAEN
  vYUOMvPAPvYUOPvNDAMwTEUMvSUAEvKUNvNGGEUXxKIEEvTUOTvMEUNvKUQvNSUMvTEUNvMAENJETvNGGAPvLEUMvNGGUOM
  wSHUTwJUEQvGHEUAEvKUvREN OLDvTAEwOQvNYIvRIIvLEEEEvMEEEEw,vSUUvMUvSHIIxEUXvKYEEvNUvSHUvNTEEvPEEvNI
  vSHOQvPUQvMVOPvLOQvREN MUCHvTIvNTUUvMBAA SEVENvSAQvFAAtE NDAPvTOONvMBEUMvLAPvVOMvLOONvPAAvSOMvRAQ
  vNSHUOPwDUNvPUAEvTAMvNGKAvKPEUXvWUOvSEEvNGGEUAETvPAAMvTOOvKUOPvLOMvNSHIEEwGOPvMAEMvNGKEUXxOQwSHUE
  vRIMGBAvNJEUXvPEEMvSAAvNGGURAEvMGBAvGHEUXvNGKEUAEMwJAEMLIvMAPvLOOTvNGGEEEEwDIQvTAEN NTEUMvSETvPUM
  vNDAA SOFTNESSwGGUAESHAE NYAMvYIEEvGHEUNvTUAEvYEUAEvPOvTUMAEvKEUAEvSUAENvTEUAEQvVEUAEvWEUXvLAAMvPU
  vTAAQvGHAAMAEvNGEUREUTvSHEUAEQvMGBENwBEEvNZAQwKOMvGBETvTUMvKUETvYAPvNYI CLEAVERvYITvMFEUQvNDIAQ
  vPIEEQvYUEQvLEUAEMvFUEvGBEUXvNGKUPvKETvMAEvNGKAAMIvGHETvFAvNTUMvPEUTvYEUMvNGGEUAEwYI BETWEENwZUQ
  vPOONvMIEEvFUETvNAEvMUAEvGHEUAEvFU IvMVIvPUAQvNGKUMvKUTvPIETvNTAPvYEUAETvNGGUPvPA PEOPLEvFU CALL
  wOMvNJEEvAvTOQvOvIvLAQvPA PLURALvTAAxQvNDAA MY HOUSEvSHIQvYEUXvNGUAEvYUAENwOQ SWIMMINGzCOVERwUQxN
  vKEUXvPEUXvNJEE EPOCHvPUEvWUEvFEEvVEEvLUvMIvREUXwAEvNGUAETxAvSHOyQvFU REMEDYvNAvPIvLOQvKOvMENwAxQ
  vTEUvKIvMONvTENvFAQvGHOMtF KAvUvKUvEEvREEvTAEvNYIvLAvRIIxEEvMEEEEvTAAvNDAAwJAEMvMvSUUwHIIwIwEUX
  vKYEEwETvNUAEx,wJUAEvYOQvSHUvYAvNSHAvPEUXvNTEEvWUEvPEEvRUvNIvREUXvKENvNGKWAENxGAvSHOvPUAEvFOMvWA
  vLIwOQvKOvMBENvRENvMAwOwBAAvTETvKPAvSAMBAvVUEQa+8+MRO LETTER TAlNGIlYOlMIMlBAlDAlAlPHIlKHAIlHAO
  lDAIlCHUlKEAAElOLlMAEMlNINlPAlOOm,lROlSHIlTHEAlEAlWAlElKOlLANn,lHAIlRIlTEKe+2+DIGIT ZEROkONEkTWO
  lHREEkFOURlIVEkSIXlEVENkEIGHTkNINEf+5+ANDAfOUBLE DANDAaTANGSA LETTER OZpCpQpXoAZpCpQpXoVZpCpQpXoEZ
  pCpQpXoIZpCpQpXoUZpCpQpXoAWZqCqQqXoUIZqCqQqXoFINAL NGoLONG UEXoSHORT UEZuAWXoUECqZqQqXpIUZrCrQrX
  oMZpCpQpXoKApHAoGAoNGAoSAoYAoWAoPAoNYAoPHAoBAoMAoNAoHAoLAoHTAoTAoDAoRAoNHAoSHAoCAoTSAoGHAoHTTAoTHA
  oXAoFAoDHAoCHAoZAh+2+DIGIT ZEROnONEnTWOoHREEnFOURoIVEnSIXoEVENnEIGHTnNINEa+7+BASSA VAH LETTER ENNI
  rKArSErFArMBErYIErGAHrDHIIrKPAHrJOrHWAHrWArZOrGBUrDOrCErUWUrTOrBArVUrYEINrPArWADDArArOsOrUrEEs,rI
  k+3+COMBINING HIGH TONEuLOW TONEuMID TONEuLOW-MID TONEuHIGH-LOW TONEkFULL STOP
  a+b+PAHAWH HMONG VOWEL KEEBwVuIBvVuAUBwVuUBvVuEBvVuAIBwVuOOBwVuAWBwVuUABwVuOBvVuIABwVuABvVuWBvV
  uAABwVnCONSONANT VAUxNTSAUxLAUxHAUxNLAUxRAUxNKAUxQHAUxYAUxHLAUxMAUxCHAUxNCHAUxHNAUxPLHAUxNTHAUyAU
  xAUxXAUxCAUnMARK CIM TUBwSOwKESxHAVwSUAMwHOMwTAUMnSIGN VOS THOMxSHAB CEEBsCIM CHEEMsVOS THIABwFEEM
  sXYEEM NTXIVyRHOyTOVyFAIBsVOS SEEVsMEEJ SUABsVOS NRUAsIB YAMsXAUSsCIM TSOV ROGn+b+DIGIT ZEROtONE
  tTWOuHREEtFOURuIVEtSIXuEVENtEIGHTtNINEn+2+NUMBER TENSuHUNDREDSuTEN THOUSANDSuMILLIONS
  uHUNDRED MILLIONSuTEN BILLIONSvRILLIONSn+2+SIGN VOS LUBsXYOOsHLIsTHIRD-STAGE HLIsZWJ THAJsHNUB
  sNQIGsXIABsNTUJsAVsTXHEEJ CEEVsMEEJ TSEEBsTAUsLOSsMUSsCIM HAIS LUS NTOG NTOGwCUAM TSHOOJwTXWV
  ba CHWVwPUB DAWBwNRES TOSn+6+CLAN SIGN TSHEEJxYEEGxLISyAUJxXYOOJxKOOxHAWJxMUASxTHOJySABxPHABxKHAB
  xHAMxVAJxFAJxYAJxTSWBxKWMxVWJa+2b1+MEDEFAIDRIN CAPITAL LETTER MbbSbbVbbWbbATIUbbZbbKPbbPbbTbbGbbF
  bbIbbKbbAbbJbbEbbBbbCbbUbbYUbbLbbQbbHPbbNYbbXbbDbbOEbbNbbRbbObbAIbbYmSMALL LETTER MzSzVzWzATIUzZ
  zKPzPzTzGzFzIzKzAzJzEzBzCzUzYUzLzQzHPzNYzXzDzOEzNzRzOzAIzYmDIGIT ZEROsONEsTWOtHREEsFOURtIVEsSIX
  tEVENsEIGHTsNINEmNUMBER TENtELEVENtTWELVEuHIRTEENtFOURTEENuIFTEENtSIXTEENuEVENTEENtEIGHTEEN
  tNINETEENmDIGIT ONE ALTERNATE FORMsTWO ALTERNATE FORMtHREE ALTERNATE FORMmCOMMAmFULL STOP
  mSYMBOL AIVAmEXCLAMATION OHb+66+IAO LETTER PAmBAmYI PAmPLAmMAnHAmARCHAIC MAmFAmVAnFAmTAmDAmYI TTA
  qAmTTAmDDAmNAnHAmYI NNAmARCHAIC NAmNNAoHAmLAnYAnHAoYAmTLHAmDLHAmTLHYAmDLHYAmKAmGAmYI KAmQAnGAmNGA
  oHAmARCHAIC NGAmHAmXAmGHAoHAmTSSAmDZZAmNYAoHAmTSHAmDZHAmYI TSHApDZHAmREFORMED TSHAmSHAnSAmZHAnSHA
  mTSAmDZAmYI TSAmSAmZAnSAnZAoSAmARCHAIC ZZAmZZYAoSYAmWAmAHmHHAmBRImSYImDZYImTEnSEmRTE
  f+5+SIGN CONSONANT MODIFIER BARfLETTER NASALIZATIONfSIGN ASPIRATIONkREFORMED VOICINGtASPIRATION
  fVOWEL SIGN ArArHHrNsGqOrOqWOr,qErNsGqOEYqIrAsNtGrOrErIrUrNGqUrAsNtGrUrEIrNGqYrIqAEsEqERR
  qROUNDED ERRqERqROUNDED ERqAIqEIqAUqOUqNrGqUOGqYUIqOGrERqVWqIGqEAqIONGqUIf+8+TONE RIGHTkTOP RIGHT
  kABOVEkBELOWfLETTER TONE-2r3r4r5r6r7r8mREFORMED TONE-1ba2ba4ba5ba6ba8a+41+TANGUT ITERATION MARK
  aNUSHU ITERATION MARKaOLD CHINESE HOOK MARKmITERATION MARKaKHITAN SMALL SCRIPT FILLER
  a+c+VIETNAMESE ALTERNATE READING MARK CAbiNHAYa+180f+TANGUT COMPONENT-001t2t3t4t5t6t7t8t9s10t1t2t3
  t4t5t6t7t8t9s20t1t2t3t4t5t6t7t8t9s30t1t2t3t4t5t6t7t8t9s40t1t2t3t4t5t6t7t8t9s50t1t2t3t4t5t6t7t8t9
  s60t1t2t3t4t5t6t7t8t9s70t1t2t3t4t5t6t7t8t9s80t1t2t3t4t5t6t7t8t9s90t1t2t3t4t5t6t7t8t9r100t1t2t3t4t5
  t6t7t8t9s10t1t2t3t4t5t6t7t8t9s20t1t2t3t4t5t6t7t8t9s30t1t2t3t4t5t6t7t8t9s40t1t2t3t4t5t6t7t8t9s50t1
  t2t3t4t5t6t7t8t9s60t1t2t3t4t5t6t7t8t9s70t1t2t3t4t5t6t7t8t9s80t1t2t3t4t5t6t7t8t9s90t1t2t3t4t5t6t7t8
  t9r200t1t2t3t4t5t6t7t8t9s10t1t2t3t4t5t6t7t8t9s20t1t2t3t4t5t6t7t8t9s30t1t2t3t4t5t6t7t8t9s40t1t2t3t4
  t5t6t7t8t9s50t1t2t3t4t5t6t7t8t9s60t1t2t3t4t5t6t7t8t9s70t1t2t3t4t5t6t7t8t9s80t1t2t3t4t5t6t7t8t9s90
  t1t2t3t4t5t6t7t8t9r300t1t2t3t4t5t6t7t8t9s10t1t2t3t4t5t6t7t8t9s20t1t2t3t4t5t6t7t8t9s30t1t2t3t4t5t6
  t7t8t9s40t1t2t3t4t5t6t7t8t9s50t1t2t3t4t5t6t7t8t9s60t1t2t3t4t5t6t7t8t9s70t1t2t3t4t5t6t7t8t9s80t1t2
  t3t4t5t6t7t8t9s90t1t2t3t4t5t6t7t8t9r400t1t2t3t4t5t6t7t8t9s10t1t2t3t4t5t6t7t8t9s20t1t2t3t4t5t6t7t8
  t9s30t1t2t3t4t5t6t7t8t9s40t1t2t3t4t5t6t7t8t9s50t1t2t3t4t5t6t7t8t9s60t1t2t3t4t5t6t7t8t9s70t1t2t3t4
  t5t6t7t8t9s80t1t2t3t4t5t6t7t8t9s90t1t2t3t4t5t6t7t8t9r500t1t2t3t4t5t6t7t8t9s10t1t2t3t4t5t6t7t8t9s20
  t1t2t3t4t5t6t7t8t9s30t1t2t3t4t5t6t7t8t9s40t1t2t3t4t5t6t7t8t9s50t1t2t3t4t5t6t7t8t9s60t1t2t3t4t5t6t7
  t8t9s70t1t2t3t4t5t6t7t8t9s80t1t2t3t4t5t6t7t8t9s90t1t2t3t4t5t6t7t8t9r600t1t2t3t4t5t6t7t8t9s10t1t2t3
  t4t5t6t7t8t9s20t1t2t3t4t5t6t7t8t9s30t1t2t3t4t5t6t7t8t9s40t1t2t3t4t5t6t7t8t9s50t1t2t3t4t5t6t7t8t9
  s60t1t2t3t4t5t6t7t8t9s70t1t2t3t4t5t6t7t8t9s80t1t2t3t4t5t6t7t8t9s90t1t2t3t4t5t6t7t8t9r700t1t2t3t4t5
  t6t7t8t9s10t1t2t3t4t5t6t7t8t9s20t1t2t3t4t5t6t7t8t9s30t1t2t3t4t5t6t7t8t9s40t1t2t3t4t5t6t7t8t9s50t1
  t2t3t4t5t6t7t8t9s60t1t2t3t4t5t6t7t8aKHITAN SMALL SCRIPT CHARACTER-18B00bi1bi2bi3bi4bi5bi6bi7bi8bi9
  biAbiBbiCbiDbiEbiFbh10bi1bi2bi3bi4bi5bi6bi7bi8bi9biAbiBbiCbiDbiEbiFbh20bi1bi2bi3bi4bi5bi6bi7bi8bi9
  biAbiBbiCbiDbiEbiFbh30bi1bi2bi3bi4bi5bi6bi7bi8bi9biAbiBbiCbiDbiEbiFbh40bi1bi2bi3bi4bi5bi6bi7bi8bi9
  biAbiBbiCbiDbiEbiFbh50bi1bi2bi3bi4bi5bi6bi7bi8bi9biAbiBbiCbiDbiEbiFbh60bi1bi2bi3bi4bi5bi6bi7bi8bi9
  biAbiBbiCbiDbiEbiFbh70bi1bi2bi3bi4bi5bi6bi7bi8bi9biAbiBbiCbiDbiEbiFbh80bi1bi2bi3bi4bi5bi6bi7bi8bi9
  biAbiBbiCbiDbiEbiFbh90bi1bi2bi3bi4bi5bi6bi7bi8bi9biAbiBbiCbiDbiEbiFbhA0bi1bi2bi3bi4bi5bi6bi7bi8bi9
  biAbiBbiCbiDbiEbiFbhB0bi1bi2bi3bi4bi5bi6bi7bi8bi9biAbiBbiCbiDbiEbiFbhC0bi1bi2bi3bi4bi5bi6bi7bi8bi9
  biAbiBbiCbiDbiEbiFbhD0bi1bi2bi3bi4bi5bi6bi7bi8bi9biAbiBbiCbiDbiEbiFbhE0bi1bi2bi3bi4bi5bi6bi7bi8bi9
  biAbiBbiCbiDbiEbiFbhF0bi1bi2bi3bi4bi5bi6bi7bi8bi9biAbiBbiCbiDbiEbiFbgC00bi1bi2bi3bi4bi5bi6bi7bi8
  bi9biAbiBbiCbiDbiEbiFbh10bi1bi2bi3bi4bi5bi6bi7bi8bi9biAbiBbiCbiDbiEbiFbh20bi1bi2bi3bi4bi5bi6bi7bi8
  bi9biAbiBbiCbiDbiEbiFbh30bi1bi2bi3bi4bi5bi6bi7bi8bi9biAbiBbiCbiDbiEbiFbh40bi1bi2bi3bi4bi5bi6bi7bi8
  bi9biAbiBbiCbiDbiEbiFbh50bi1bi2bi3bi4bi5bi6bi7bi8bi9biAbiBbiCbiDbiEbiFbh60bi1bi2bi3bi4bi5bi6bi7bi8
  bi9biAbiBbiCbiDbiEbiFbh70bi1bi2bi3bi4bi5bi6bi7bi8bi9biAbiBbiCbiDbiEbiFbh80bi1bi2bi3bi4bi5bi6bi7bi8
  bi9biAbiBbiCbiDbiEbiFbh90bi1bi2bi3bi4bi5bi6bi7bi8bi9biAbiBbiCbiDbiEbiFbhA0bi1bi2bi3bi4bi5bi6bi7bi8
  bi9biAbiBbiCbiDbiEbiFbhB0bi1bi2bi3bi4bi5bi6bi7bi8bi9biAbiBbiCbiDbiEbiFbhC0bi1bi2bi3bi4bi5bi6bi7bi8
  bi9biAbiBbiCbiDbiEbiFbhD0bi1bi2bi3bi4bi5b+231b+ATAKANA LETTER MINNAN TONE-2bc3bc4bc5bc+2+7bc8
  xNASALIZED TONE-1bm2bm3bm4bm5bm+2+7bm8q+2+ARCHAIC EaHIRAGANA LETTER ARCHAIC YE
  bENTAIGANA LETTER A-1u2u3uWOsI-1u2u3u4sU-1u2u3u4u5sE-2u3u4u5u6sO-1u2u3sKA-1v2v3v4v5v6v7v8v9v10w1
  vKEtI-1v2v3v4v5v6v7v8tU-1v2v3v4v5v6v7tE-1v2v3v4v5v6tO-1v2v3vKIsSA-1v2v3v4v5v6v7v8tI-1v2v3v4v5v6
  tU-1v2v3v4v5v6v7v8tE-1v2v3v4v5tO-1v2v3v4v5v6v7sTA-1v2v3v4tI-1v2v3v4v5v6v7tU-1v2v3v4vTOtE-1v2v3v4v5
  v6v7v8v9tO-1v2v3v4v5v6vRAsNA-1v2v3v4v5v6v7v8v9tI-1v2v3v4v5v6v7vTEtU-1v2v3tE-1v2v3v4v5v6vKOtO-1v2v3
  v4v5sHA-1v2v3v4v5v6v7v8v9v10w1tI-1v2v3v4v5v6v7tU-1v2v3tE-1v2v3v4v5v6v7tO-1v2v3v4v5v6v7v8sMA-1v2v3
  v4v5v6v7tI-1v2v3v4v5v6v7tU-1v2v3v4tE-1v2vMAtO-1v2v3v4v5v6sYA-1v2v3v4v5vYOtU-1v2v3v4tO-1v2v3v4v5v6
  sRA-1v2v3v4tI-1v2v3v4v5v6v7tU-1v2v3v4v5v6tE-1v2v3v4tO-1v2v3v4v5v6sWA-1v2v3v4v5tI-1v2v3v4v5tE-1v2v3
  v4tO-1v2v3v4v5v6v7sN-MU-MO-1ba2bIRAGANA LETTER ARCHAIC WUaKATAKANA LETTER ARCHAIC YIzEyWU
  a+2e+HIRAGANA LETTER SMALL WIxExOa+12+KATAKANA LETTER SMALL WIxExOwNa+9+NUSHU CHARACTER-1B170u1u2
  u3u4u5u6u7u8u9uAuBuCuDuEuFt80u1u2u3u4u5u6u7u8u9uAuBuCuDuEuFt90u1u2u3u4u5u6u7u8u9uAuBuCuDuEuFtA0u1
  u2u3u4u5u6u7u8u9uAuBuCuDuEuFtB0u1u2u3u4u5u6u7u8u9uAuBuCuDuEuFtC0u1u2u3u4u5u6u7u8u9uAuBuCuDuEuFtD0
  u1u2u3u4u5u6u7u8u9uAuBuCuDuEuFtE0u1u2u3u4u5u6u7u8u9uAuBuCuDuEuFtF0u1u2u3u4u5u6u7u8u9uAuBuCuDuEuF
  s200u1u2u3u4u5u6u7u8u9uAuBuCuDuEuFt10u1u2u3u4u5u6u7u8u9uAuBuCuDuEuFt20u1u2u3u4u5u6u7u8u9uAuBuCuDuE
  uFt30u1u2u3u4u5u6u7u8u9uAuBuCuDuEuFt40u1u2u3u4u5u6u7u8u9uAuBuCuDuEuFt50u1u2u3u4u5u6u7u8u9uAuBuCuD
  uEuFt60u1u2u3u4u5u6u7u8u9uAuBuCuDuEuFt70u1u2u3u4u5u6u7u8u9uAuBuCuDuEuFt80u1u2u3u4u5u6u7u8u9uAuBuC
  uDuEuFt90u1u2u3u4u5u6u7u8u9uAuBuCuDuEuFtA0u1u2u3u4u5u6u7u8u9uAuBuCuDuEuFtB0u1u2u3u4u5u6u7u8u9uAuB
  uCuDuEuFtC0u1u2u3u4u5u6u7u8u9uAuBuCuDuEuFtD0u1u2u3u4u5u6u7u8u9uAuBuCuDuEuFtE0u1u2u3u4u5u6u7u8u9uA
  uBuCuDuEuFtF0u1u2u3u4u5u6u7u8u9uAuBa+905+DUPLOYAN LETTER HqXqPqTqFqKqLqBqDqVqGqRqP NqD SqF NqK M
  qR SqTHqSLOAN DHqDHqKKqSLOAN JqHLqLHqRHqMqNqJqSqM NqN MqJ MqS JqM WITH DOTqN WITH DOTqJ WITH DOT
  baS INSIDE AND ABOVEqS WITH DOTba BELOWqM SqN SqJ SqS SqM N SqN M SqJ M SqS J SqJ S WITH DOTsNt S
  qS Tt RsPt RqT SsR SqWrHr RqS NsMqK R SqG R SqS Kt RqAqSLOAN OWqOAr,qAOUqIqEqIEqSHORT IqUIqEE
  qSLOAN EHqROMANIAN IqSLOAN EEqLONG IqYEqUqEUqXWqU NqLONG UqROMANIAN UqUHqSLOAN UqOOHrWrUqWArOrIrEI
  rOWqNASAL UwOwIwAqPERNIN ANyMqSLOAN ENwANwONqVOCALIC Mj+6+AFFIX LEFT HORIZONTAL SECANT
  pMID HORIZONTAL SECANTpRIGHT HORIZONTAL SECANTpLOW VERTICAL SECANTpMID VERTICAL SECANT
  pHIGH VERTICAL SECANTpATTACHED SECANTyLEFT-TO-RIGHT SECANTyTANGENTbaILyE HOOKyI HOOKyTANGENT HOOK
  p+4+HIGH ACUTEuTIGHT ACUTEuGRAVEuLONG GRAVEuDOTuCIRCLEuLINEuWAVEuVERTICALp+8+LOW ACUTEtTIGHT ACUTE
  tGRAVEtLONG GRAVEtDOTtCIRCLEtLINEtWAVEtVERTICALtARROWj+3+SIGN O WITH CROSSjTHICK LETTER SELECTOR
  jDOUBLE MARKjPUNCTUATION CHINOOK FULL STOPaSHORTHAND FORMAT LETTER OVERLAPrCONTINUING OVERLAP
  rDOWN STEPrUP STEPa+125d+ZNAMENNY COMBINING MARK GORAZDO NIZKO S KRYZHEM ON LEFT
  yNIZKO S KRYZHEM ON LEFTyTSATA ON LEFTyGORAZDO NIZKO ON LEFTyNIZKO ON LEFTySREDNE ON LEFT
  yMALO POVYSHE ON LEFTyPOVYSHE ON LEFTyVYSOKO ON LEFTyMALO POVYSHE S KHOKHLOM ON LEFT
  yPOVYSHE S KHOKHLOM ON LEFTyVYSOKO S KHOKHLOM ON LEFTyGORAZDO NIZKO S KRYZHEM ON RIGHT
  yNIZKO S KRYZHEM ON RIGHTyTSATA ON RIGHTyGORAZDO NIZKO ON RIGHTyNIZKO ON RIGHTySREDNE ON RIGHT
  yMALO POVYSHE ON RIGHTyPOVYSHE ON RIGHTyVYSOKO ON RIGHTyMALO POVYSHE S KHOKHLOM ON RIGHT
  yPOVYSHE S KHOKHLOM ON RIGHTyVYSOKO S KHOKHLOM ON RIGHTyTSATA S KRYZHEMyMALO POVYSHE S KRYZHEM
  ySTRANNO MALO POVYSHEyPOVYSHE S KRYZHEMbhTRANNOyVYSOKO S KRYZHEMyMALO POVYSHE STRANNO
  yGORAZDO VYSOKOyZELOyONyRAVNOyTIKHAYAyBORZAYAyUDARKAyPODVERTKAyLOMKAyKUPNAYAzACHKAyZEVOKySKOBA
  yRAZSEKAyKRYZH ON LEFTt+3+TONAL RANGE MARK MRACHNObkSVETLObkTRESVETLOtMARK ZADERZHKA
  yDEMESTVENNY ZADERZHKAyOTSECHKAyPODCHASHIEbi WITH VERTICAL STROKEyCHASHKAbf POLNAYAyOBLACHKO
  ySOROCHYA NOZHKAyTOCHKAyDVOETOCHIEtATTACHING VERTICAL OMETtMARK CURVED OMETyKRYZH
  tLOWER TONAL RANGE INDICATORjPRIZNAK MODIFIER LEVEL-2bg3baDIRECTION FLIPbaKRYZHbaROG
  j+a+NEUME KRYUKu TIKHYpPARAKLITpDVA V CHELNUpKLYUCHpZANOZHEKpSTOPITSAx S OCHKOMpPEREVODKA
  y NEPOSTOYANNAYApSTOPITSA WITH SOROCHYA NOZHKApCHELYUSTKApPALKApZAPYATAYApGOLUBCHIK BORZYzTIKHY
  zMRACHNYzSVETLYzTRESVETLYpVRAKHIYA PROSTAYAyMRACHNAYAySVETLAYAyTRESVETLAYAyKLYUCHEVAYA PROSTAYA
  bkMRACHNAYAbkSVETLAYAbkTRESVETLAYApDOUBLE ZAPYATAYApREVERSED CHELYUSTKApDERBITSApKHAMILOpCHASHKA
  pPODCHASHIEpSKAMEYTSA MRACHNAYAzSVETLAYAzTRESVETLAYAbaIKHAYApDEMESTVENNY KLYUCH
  pSKAMEYTSA KLYUCHEVAYA SVETLAYAbgNEPOSTOYANNAYAbgVAYA TIKHAYAzDVOECHELNAYA PROSTAYAbmSVETLAYA
  bmNEPOSTOYANNAYAbmKLYUCHEVAYAqLOZHITIEy S ZAPYATOYzZAKRYTOEzS KRYZHEMpKRYZHpROGpFITApKOBYLA
  pZMEYTSApSTATYAv S ZAPYATOYyKRYZHEMyZAPYATOY I KRYZHEMyKRYZHEM I ZAPYATOYwZAKRYTAYAbf S ZAPYATOY
  wS ROGOMyDVUMYA ZAPYATYMIyZAPYATOY I PODCHASHIEMpPOLKULIZMYpSTATYA NEPOSTOYANNAYArRELA PROSTAYA
  wMRACHNOTIKHAYAwKRYZHEVAYAwPOLUPOVODNAYAyVODNAYAwNEPOSTOYANNAYAwKLYUCHEPOVODNAYAbdNEPOSTOYANNAYA
  wTIKHAYA PUTNAYAwDVOECHELNAYAbfOKRYZHEVAYAbgPOVODNAYAbfAYA KLYUCHEVAYAbfOPOVODNAYA KLYUCHEVAYA
  wGROMNAYA WITH SINGLE ZAPYATAYAbaOPOVODNAYA WITH SINGLE ZAPYATAYAbaNAYAbaOPOVODNAYA
  bk WITH DOUBLE ZAPYATAYAbbKRYZHEVAYAbl POVODNAYApMECHIKv POVODNYwKLYUCHEVOYbdPOVODNYbdNEPOSTOYANNY
  pSTRELA TRYASOGLASNAYAbcPOVODNAYAbcSTRELNAYApOSOKAu SVETLAYAvTRESVETLAYAvKRYUKOVAYA SVETLAYA
  wLYUCHEVAYA SVETLAYAbhNEPOSTOYANNAYApSTRELA KRYUKOVAYAbg POVODNAYAbhGROMNAYA WITH SINGLE ZAPYATAYA
  blOPOVODNAYA WITH SINGLE ZAPYATAYAblNAYAblOPOVODNAYAbv WITH DOUBLE ZAPYATAYAbmKRYZHEVAYA
  bw POVODNAYAbhTRYASKApKUFISMApOBLAKOpDUDApNEMKApPAUK
  "

end BoundQuery.Text.CharacterName
